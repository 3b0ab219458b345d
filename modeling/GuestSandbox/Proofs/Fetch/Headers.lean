import GuestSandbox.Fetch.Message
import GuestSandbox.Proofs.Json.Fields
import Mathlib.Data.List.Induction

namespace GuestSandbox

def namedHeaders (headers : Headers) (name : String) : Headers := headers.filter (Text.lower ·.1 == name)

def headerValues (headers : Headers) (name : String) : List String := (namedHeaders headers name).map Prod.snd

structure Merges (headers merged : Headers) : Prop where
  increasing : Json.Ordered merged
  names : ∀ name, name ∈ merged.map Prod.fst ↔ ∃ header ∈ headers, Text.lower header.1 = name
  values : ∀ name value, (name, value) ∈ merged → value = ", ".intercalate (headerValues headers name)

def withValue (earlier : Option String) (value : String) : String :=
  match earlier with
  | some earlier => earlier ++ ", " ++ value
  | none => value

def joined? (values : List String) : Option String := if values = [] then none else some (", ".intercalate values)

theorem joined?_concat (values : List String) (value : String) :
    joined? (values ++ [value]) = some (withValue (joined? values) value) := by
  rw [joined?, if_neg (List.append_ne_nil_of_right_ne_nil values (List.cons_ne_nil value []))]
  cases values with
  | nil => simp [joined?, withValue]
  | cons first rest =>
    rw [String.intercalate_append_of_ne_nil (List.cons_ne_nil _ _) (List.cons_ne_nil _ _), String.intercalate_singleton]
    rfl

theorem headerValues_concat (headers : Headers) (header : String × String) (name : String) :
    headerValues (headers ++ [header]) name =
      headerValues headers name ++ if Text.lower header.1 = name then [header.2] else [] := by
  rw [headerValues, namedHeaders, List.filter_append, List.map_append]
  by_cases same : Text.lower header.1 = name <;> simp [headerValues, namedHeaders, same]

theorem headerValues_eq_nil_iff {headers : Headers} {name : String} :
    headerValues headers name = [] ↔ ¬∃ header ∈ headers, Text.lower header.1 = name := by
  simp [headerValues, namedHeaders]

theorem lookup_mergeHeader (name value : String) (merged : Headers) (other : String) :
    (mergeHeader name value merged).lookup other =
      if other = name then some (withValue (merged.lookup name) value) else merged.lookup other := by
  unfold mergeHeader
  cases merged.lookup name <;> exact Json.lookup_insertField _ _ _ _

theorem mergeHeader_ordered {merged : Headers} (ordered : Json.Ordered merged) (name value : String) :
    Json.Ordered (mergeHeader name value merged) := by
  unfold mergeHeader
  split <;> exact Json.insertField_ordered _ _ _ ordered

theorem mergeHeaders_concat (headers : Headers) (header : String × String) :
    mergeHeaders (headers ++ [header]) = mergeHeader (Text.lower header.1) header.2 (mergeHeaders headers) := by
  rw [mergeHeaders, List.foldl_append]
  rfl

theorem mergeHeaders_ordered (headers : Headers) : Json.Ordered (mergeHeaders headers) := by
  induction headers using List.reverseRecOn with
  | nil => exact List.Pairwise.nil
  | append_singleton headers header ih =>
    rw [mergeHeaders_concat]
    exact mergeHeader_ordered ih _ _

-- The induction takes headers away from the end: what is merged so far holds the values of the headers so far.
theorem lookup_mergeHeaders (headers : Headers) (name : String) :
    (mergeHeaders headers).lookup name = joined? (headerValues headers name) := by
  induction headers using List.reverseRecOn with
  | nil => rfl
  | append_singleton headers header ih =>
    rw [mergeHeaders_concat, lookup_mergeHeader, headerValues_concat]
    by_cases same : name = Text.lower header.1
    · rw [if_pos same, if_pos same.symm, joined?_concat, ← same, ih]
    · rw [if_neg same, if_neg (Ne.symm same), List.append_nil, ih]

theorem mem_mergeHeaders {headers : Headers} {name value : String} :
    (name, value) ∈ mergeHeaders headers ↔
      (∃ header ∈ headers, Text.lower header.1 = name) ∧ value = ", ".intercalate (headerValues headers name) := by
  rw [(mergeHeaders_ordered headers).mem_iff, lookup_mergeHeaders, joined?]
  split
  · rename_i none
    simp [headerValues_eq_nil_iff.mp none]
  · rename_i filled
    rw [headerValues_eq_nil_iff, not_not] at filled
    rw [Option.some.injEq, eq_comm, and_iff_right filled]

theorem mergeHeaders_merges (headers : Headers) : Merges headers (mergeHeaders headers) where
  increasing := mergeHeaders_ordered headers
  names name := by
    rw [List.mem_map]
    constructor
    · rintro ⟨⟨_, value⟩, member, rfl⟩
      exact (mem_mergeHeaders.mp member).1
    · intro named
      exact ⟨(name, _), mem_mergeHeaders.mpr ⟨named, rfl⟩, rfl⟩
  values name value member := (mem_mergeHeaders.mp member).2

theorem mergeHeaders_congr {one other : Headers} (same : ∀ name, headerValues one name = headerValues other name) :
    mergeHeaders one = mergeHeaders other :=
  (mergeHeaders_ordered one).ext (mergeHeaders_ordered other) fun name => by
    rw [lookup_mergeHeaders, lookup_mergeHeaders, same]

-- A response whose headers stand in another order, with those of each name in the order they had, has the same reply.
theorem Reply.ofResponse_headers (response : Response) :
    Merges response.headers (ofResponse response).headers ∧
      ∀ other : Headers, (∀ name, namedHeaders other name = namedHeaders response.headers name) →
        ofResponse { response with headers := other } = ofResponse response := by
  refine ⟨mergeHeaders_merges response.headers, fun other same => ?_⟩
  have merged : mergeHeaders other = mergeHeaders response.headers :=
    mergeHeaders_congr fun name => congrArg (List.map Prod.snd) (same name)
  simp only [ofResponse, merged]
  rfl

-- Two spellings of a name, with another name in between or in front of them.
theorem Reply.ofResponse_headers_spellings :
    let response : Response := ⟨200, [("Set-Cookie", "a=1"), ("ETag", "x"), ("set-cookie", "b=2")], [], "https://api.test/"⟩
    let other : Headers := [("ETag", "x"), ("Set-Cookie", "a=1"), ("set-cookie", "b=2")]
    (ofResponse response).headers = [("etag", "x"), ("set-cookie", "a=1, b=2")] ∧
      (∀ name, namedHeaders other name = namedHeaders response.headers name) ∧
      ofResponse { response with headers := other } = ofResponse response := by
  intro response other
  have same : ∀ name, namedHeaders other name = namedHeaders response.headers name := by
    have cookie : Text.lower "Set-Cookie" = "set-cookie" := by decide +kernel
    have cookieToo : Text.lower "set-cookie" = "set-cookie" := by decide +kernel
    have tag : Text.lower "ETag" = "etag" := by decide +kernel
    intro name
    by_cases named : name = "etag"
    · simp [namedHeaders, response, other, cookie, cookieToo, tag, named]
    · simp [namedHeaders, List.filter_cons, response, other, cookie, cookieToo, tag, Ne.symm named]
  exact ⟨by decide +kernel, same, (ofResponse_headers response).2 other same⟩

end GuestSandbox
