import GuestSandbox.Proofs.Url.Encoded
import GuestSandbox.Proofs.Url.Parts
import GuestSandbox.Url.Parser

-- Paths of web URLs as their segments. A path that has been read holds no dot segment and nothing to encode, and so it
-- reads as itself.

namespace GuestSandbox.Url

structure Segment (segment : List Char) : Prop where
  kept : ∀ c ∈ segment, isKept inPathSet c = true ∧ isAnySlash c = false
  single : isSingleDot segment = false
  double : isDoubleDot segment = false

def PathText (path : List Char) : Prop :=
  ∃ segments : List (List Char), segments ≠ [] ∧ (∀ segment ∈ segments, Segment segment) ∧
    path = '/' :: joinWith '/' segments

theorem Segment.nil : Segment [] := ⟨nofun, rfl, rfl⟩

def webRules : PathRules := ⟨false, true⟩

-- A part of a path that is encoded and holds no slash, dots or not.
def Encoded (part : List Char) : Prop := ∀ c ∈ part, isKept inPathSet c = true ∧ isAnySlash c = false

theorem mem_goUp {closed : List (List Char)} {segment : List Char} (listed : segment ∈ goUp closed) :
    segment ∈ closed := by
  cases closed with
  | nil => cases listed
  | cons last rest =>
    rw [goUp] at listed
    split at listed
    · exact listed
    · exact List.mem_cons_of_mem _ listed

theorem driveSegment_web (closed : List (List Char)) (segment : List Char) :
    driveSegment webRules closed segment = none := rfl

theorem readSegments_segments {closed parts : List (List Char)} {hasDrive : Bool}
    (before : ∀ segment ∈ closed, Segment segment) (encoded : ∀ part ∈ parts, Encoded part) :
    (∀ segment ∈ (readSegments webRules closed hasDrive parts).closed, Segment segment) ∧
      Segment (readSegments webRules closed hasDrive parts).final := by
  fun_induction readSegments webRules closed hasDrive parts with
  | case1 closed hasDrive => exact ⟨before, .nil⟩
  | case2 closed hasDrive segment double => exact ⟨fun other listed => before other (mem_goUp listed), .nil⟩
  | case3 closed hasDrive segment double next more ih =>
    exact ih (fun other listed => before other (mem_goUp listed)) (List.forall_mem_cons.mp encoded).2
  | case4 closed hasDrive segment double single => exact ⟨before, .nil⟩
  | case5 closed hasDrive segment double single next more ih => exact ih before (List.forall_mem_cons.mp encoded).2
  | case6 closed hasDrive segment double single =>
    have read : Segment segment := ⟨encoded segment List.mem_cons_self, by simpa using single, by simpa using double⟩
    exact ⟨before, read⟩
  | case7 closed hasDrive segment double single course kept drive next more ih =>
    have read : Segment segment := ⟨encoded segment List.mem_cons_self, by simpa using single, by simpa using double⟩
    exact ih (List.forall_mem_cons.mpr ⟨read, before⟩) (List.forall_mem_cons.mp encoded).2

theorem text_pathText {result : PathResult} (closed : ∀ segment ∈ result.closed, Segment segment)
    (final : Segment result.final) : PathText (result.text webRules) := by
  refine ⟨result.closed.reverse ++ [result.final], by simp, fun segment listed => ?_, rfl⟩
  rcases List.mem_append.mp listed with earlier | last
  · exact closed segment (List.mem_reverse.mp earlier)
  · rw [List.mem_singleton.mp last]
    exact final

theorem escape_plain : ∀ c ∈ escapeChars, isKept inPathSet c = true ∧ isAnySlash c = false := by
  have each : escapeChars.all (fun c => isKept inPathSet c && !isAnySlash c) = true := by decide
  simpa using each

theorem encode_encoded {part : List Char} (whole : ∀ c ∈ part, isAnySlash c = false) :
    Encoded (encode inPathSet part) := by
  intro c member
  rcases mem_encode member with ⟨inside, kept⟩ | escape
  · exact ⟨kept, whole c inside⟩
  · exact escape_plain c escape

theorem readPath_pathText {closed : List (List Char)} (before : ∀ segment ∈ closed, Segment segment) (cs : List Char) :
    PathText ((readPath webRules closed cs).1.text webRules) := by
  have encoded : ∀ part ∈ (Text.partsBetween webRules.isSlash (cs.takeWhile (!endsPath ·))).map (encode inPathSet),
      Encoded part := by
    intro part listed
    obtain ⟨plain, among, rfl⟩ := List.mem_map.mp listed
    exact encode_encoded fun c member => (partsBetween_free among c member).2
  obtain ⟨segments, final⟩ := readSegments_segments before encoded
  exact text_pathText segments final

-- The segments in front of the last are those of a path already.
theorem openPath_segments {path : List Char} (written : PathText path) :
    ∀ segment ∈ (openPath path).1, Segment segment := by
  obtain ⟨segments, filled, good, rfl⟩ := written
  have split : Text.partsBetween (· == '/') (joinWith '/' segments) = segments := by
    refine partsBetween_joinWith rfl filled fun part listed c member => ?_
    have whole := ((good part listed).kept c member).2
    simp only [isAnySlash, Bool.or_eq_false_iff] at whole
    exact whole.1
  intro segment listed
  have reversed : segment ∈ segments.reverse := by
    simp only [openPath, List.drop_succ_cons, List.drop_zero, split] at listed
    split at listed
    · rename_i last closed same
      rw [same]
      exact List.mem_cons_of_mem _ listed
    · cases listed
  exact good segment (List.mem_reverse.mp reversed)

theorem readSegments_of_segments {front : List (List Char)} {final : List Char}
    (good : ∀ segment ∈ front ++ [final], Segment segment) (closed : List (List Char)) :
    readSegments webRules closed false (front ++ [final]) = ⟨front.reverse ++ closed, final, false⟩ := by
  induction front generalizing closed with
  | nil =>
    obtain ⟨_, single, double⟩ := good final (List.mem_singleton_self _)
    rw [List.nil_append, readSegments]
    simp [single, double, driveSegment_web]
  | cons segment front ih =>
    obtain ⟨first, others⟩ := List.forall_mem_cons.mp good
    obtain ⟨next, more, same⟩ := List.exists_cons_of_ne_nil (show front ++ [final] ≠ [] by simp)
    have later := ih others (segment :: closed)
    rw [same] at later
    rw [List.cons_append, same, readSegments]
    simp [first.single, first.double, driveSegment_web, later]

theorem endsPath_of_segments {segments : List (List Char)} (good : ∀ segment ∈ segments, Segment segment) {c : Char}
    (member : c ∈ joinWith '/' segments) : endsPath c = false := by
  rcases mem_joinWith member with rfl | ⟨segment, listed, inside⟩
  · decide
  · have kept := ((good segment listed).kept c inside).1
    exact forall_kept (P := fun c => endsPath c = false) (by decide) kept

theorem takeWhile_endsPath {cs tail : List Char} (goes : ∀ c ∈ cs, endsPath c = false)
    (ends : tail.head?.all endsPath = true) :
    (cs ++ tail).takeWhile (!endsPath ·) = cs ∧ (cs ++ tail).dropWhile (!endsPath ·) = tail := by
  have inside : ∀ c ∈ cs, (!endsPath c) = true := fun c member => by simp [goes c member]
  rw [List.takeWhile_append_of_pos inside, List.dropWhile_append_of_pos inside]
  cases tail with
  | nil => simp
  | cons c rest =>
    have stop : endsPath c = true := ends
    simp [stop]

theorem readPath_of_segments {segments : List (List Char)} (filled : segments ≠ [])
    (good : ∀ segment ∈ segments, Segment segment) {tail : List Char} (ends : tail.head?.all endsPath = true) :
    ∃ result, readPath webRules [] (joinWith '/' segments ++ tail) = (result, tail) ∧
      result.text webRules = '/' :: joinWith '/' segments := by
  obtain ⟨front, rest⟩ := takeWhile_endsPath (fun c member => endsPath_of_segments good member) ends
  have split : Text.partsBetween webRules.isSlash (joinWith '/' segments) = segments :=
    partsBetween_joinWith rfl filled fun segment listed c member => ((good segment listed).kept c member).2
  have same : segments.map (encode inPathSet) = segments := by
    have each : ∀ segment ∈ segments, encode inPathSet segment = segment :=
      fun segment listed => encode_of_isKept fun c member => ((good segment listed).kept c member).1
    exact (List.map_congr_left each).trans (List.map_id segments)
  obtain ⟨before, final, rfl⟩ := (List.eq_nil_or_concat segments).resolve_left filled
  rw [List.concat_eq_append] at *
  have read := readSegments_of_segments good []
  rw [List.append_nil] at read
  refine ⟨⟨before.reverse, final, false⟩, ?_, ?_⟩
  · rw [readPath, front, rest, split, same, read]
  · rw [PathResult.text, List.reverse_reverse]
    rfl

end GuestSandbox.Url
