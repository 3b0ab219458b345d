import GuestSandbox.Proofs.Url.Encoded
import GuestSandbox.Proofs.Url.Parts
import GuestSandbox.Url.Domain

-- Domain names in ASCII. No label brings in a character that ends a host, neither as it is written nor by way of Punycode.

namespace GuestSandbox.Url

def isHostChar (c : Char) : Bool := c.toNat < 128 && !isForbidden c

namespace Punycode

theorem isHostChar_of_digit? {c : Char} {value : Nat} (digit : digit? c = some value) : isHostChar c = true := by
  have below {last : Char} (upTo : c ≤ last) (small : last.toNat < 128) : c.toNat < 128 :=
    Nat.lt_of_le_of_lt (UInt32.le_iff_toNat_le.mp upTo) small
  have ascii : c.toNat < 128 := by
    unfold digit? at digit
    simp only [Bool.and_eq_true, decide_eq_true_eq] at digit
    split at digit
    · rename_i lower
      exact below lower.2 (by decide)
    · split at digit
      · rename_i upper
        exact below upper.2 (by decide)
      · split at digit
        · rename_i figure
          exact below figure.2 (by decide)
        · cases digit
  exact forall_ascii (P := fun c => (digit? c).isSome = true → isHostChar c = true) (by decide) ascii
    (Option.isSome_of_eq_some digit)

theorem isHostChar_digitChar {n : Nat} (small : n < 36) : isHostChar (digitChar n) = true := by
  have digits : ∀ n < 36, isHostChar (digitChar n) = true := by decide
  exact digits n small

theorem threshold_le (place bias : Nat) : 1 ≤ threshold place bias ∧ threshold place bias ≤ 26 := by
  unfold threshold
  split
  · omega
  · split <;> omega

theorem isHostChar_of_mem_numberDigits {bias fuel place value : Nat} {c : Char}
    (member : c ∈ numberDigits bias fuel place value) : isHostChar c = true := by
  induction fuel generalizing place value with
  | zero => cases member
  | succ fuel ih =>
    have bounds := threshold_le place bias
    rw [numberDigits] at member
    split at member
    · rename_i last
      rw [List.mem_singleton.mp member]
      exact isHostChar_digitChar (by omega)
    · have digit := Nat.mod_lt (value - threshold place bias) (show 0 < 36 - threshold place bias by omega)
      rcases List.mem_cons.mp member with rfl | later
      · exact isHostChar_digitChar (by omega)
      · exact ih later

theorem Encoding.see_chars {basic code other : Nat} {e : Encoding} (sofar : ∀ c ∈ e.done, isHostChar c = true) :
    ∀ c ∈ (e.see basic code other).done, isHostChar c = true := by
  unfold Encoding.see
  split
  · exact sofar
  · split
    · intro c member
      rcases List.mem_append.mp member with before | new
      · exact sofar c before
      · exact isHostChar_of_mem_numberDigits new
    · exact sofar

theorem Encoding.foldl_chars {label : List Nat} {basic code : Nat} {e : Encoding}
    (sofar : ∀ c ∈ e.done, isHostChar c = true) :
    ∀ c ∈ (label.foldl (Encoding.see basic code) e).done, isHostChar c = true := by
  induction label generalizing e with
  | nil => exact sofar
  | cons other rest ih => exact ih (see_chars sofar)

theorem Encoding.run_chars {label codes : List Nat} {basic next : Nat} {e : Encoding}
    (sofar : ∀ c ∈ e.done, isHostChar c = true) :
    ∀ c ∈ (Encoding.run label basic codes next e).done, isHostChar c = true := by
  induction codes generalizing next e with
  | nil => exact sofar
  | cons code rest ih => exact ih (foldl_chars sofar)

theorem encode_chars {label : List Nat} (plain : ∀ code ∈ label, code < firstCode → isHostChar (Char.ofNat code) = true) :
    ∀ c ∈ encode label, isHostChar c = true := by
  refine Encoding.run_chars fun c member => ?_
  rcases List.mem_append.mp member with basic | mark
  · obtain ⟨code, listed, rfl⟩ := List.mem_map.mp basic
    obtain ⟨inside, small⟩ := List.mem_filter.mp listed
    exact plain code inside (of_decide_eq_true small)
  · split at mark
    · cases mark
    · rw [List.mem_singleton.mp mark]
      decide

theorem Decoding.take_keeps {d next : Decoding} {digit : Nat} (taken : d.take digit = some next) {code : Nat}
    (member : code ∈ d.done) : code ∈ next.done := by
  unfold Decoding.take at taken
  dsimp only at taken
  split at taken
  · cases taken
  · split at taken
    · split at taken
      · cases taken
      · cases taken
        rw [← List.take_append_drop _ d.done] at member
        rcases List.mem_append.mp member with front | back
        · exact List.mem_append_left _ front
        · exact List.mem_append_right _ (List.mem_cons_of_mem _ back)
    · cases taken
      exact member

-- Decoding takes digits only, and keeps the codes that it starts with.
theorem Decoding.run_facts {d last : Decoding} {cs : List Char} (ran : Decoding.run d cs = some last) :
    (∀ c ∈ cs, isHostChar c = true) ∧ ∀ code ∈ d.done, code ∈ last.done := by
  induction cs generalizing d with
  | nil =>
    cases ran
    exact ⟨nofun, fun _ member => member⟩
  | cons c rest ih =>
    obtain ⟨digit, read, ran⟩ := Option.bind_eq_some_iff.mp ran
    obtain ⟨next, taken, ran⟩ := Option.bind_eq_some_iff.mp ran
    obtain ⟨chars, keeps⟩ := ih ran
    exact ⟨List.forall_mem_cons.mpr ⟨isHostChar_of_digit? read, chars⟩,
      fun code member => keeps code (take_keeps taken member)⟩

theorem mem_splitLastHyphen {cs : List Char} {c : Char} (member : c ∈ cs) :
    c ∈ (splitLastHyphen cs).1 ∨ c = '-' ∨ c ∈ (splitLastHyphen cs).2 := by
  unfold splitLastHyphen
  split
  · have whole := List.takeWhile_append_dropWhile (p := fun d => d != '-') (l := cs.reverse)
    rw [← List.mem_reverse, ← whole, List.mem_append] at member
    rcases member with back | front
    · exact .inr (.inr (List.mem_reverse.mpr back))
    · cases rest : cs.reverse.dropWhile (· != '-') with
      | nil =>
        rw [rest] at front
        cases front
      | cons mark others =>
        rw [rest] at front
        have hyphen := List.head?_dropWhile_not (fun d => d != '-') cs.reverse
        rw [rest] at hyphen
        rcases List.mem_cons.mp front with rfl | other
        · exact .inr (.inl (by simpa using hyphen))
        · exact .inl (by simpa using other)
  · exact .inr (.inr member)

theorem decode_chars {cs : List Char} {codes : List Nat} (decoded : decode cs = some codes)
    (plain : ∀ code ∈ codes, code < firstCode → isHostChar (Char.ofNat code) = true) : ∀ c ∈ cs, isHostChar c = true := by
  intro c member
  obtain ⟨basic, digits, split⟩ : ∃ basic digits, splitLastHyphen cs = (basic, digits) := ⟨_, _, rfl⟩
  have somewhere := mem_splitLastHyphen member
  simp only [decode, split] at decoded somewhere
  split at decoded
  · cases decoded
  · rename_i ascii
    obtain ⟨last, ran, done⟩ := Option.bind_eq_some_iff.mp decoded
    obtain ⟨chars, keeps⟩ := Decoding.run_facts ran
    split at done
    · cases done
    · cases done
      rcases somewhere with front | rfl | back
      · have small : ¬ 128 ≤ c.toNat := fun large => ascii (List.any_eq_true.mpr ⟨c, front, decide_eq_true large⟩)
        have kept := plain c.toNat (keeps c.toNat (List.mem_map_of_mem front)) (Nat.lt_of_not_le small)
        rwa [Char.ofNat_toNat] at kept
      · decide
      · exact chars c back

end Punycode

theorem Label.ascii_chars {text : List Char} {label : Label} (read : Label.of? text = some label)
    (plain : ∀ c ∈ label.readable, c.toNat < 128 → isForbidden c = false) : ∀ c ∈ label.ascii, isHostChar c = true := by
  have fit {c : Char} (member : c ∈ label.readable) (ascii : c.toNat < 128) : isHostChar c = true := by
    simp [isHostChar, ascii, plain c member ascii]
  have mark : ∀ c ∈ punycodeMark, isHostChar c = true := List.all_eq_true.mp (by decide)
  unfold Label.of? at read
  split at read
  · rename_i marked
    split at read
    · cases read
    · split at read
      · cases read
      · rename_i codes decoded
        dsimp only at read
        split at read
        · cases read
        · cases read
          obtain ⟨rest, rfl⟩ := List.isPrefixOf_iff_prefix.mp marked
          intro c member
          rcases List.mem_append.mp member with front | behind
          · exact mark c front
          · refine Punycode.decode_chars decoded (fun code listed small => ?_) c behind
            have ascii : ∀ n < Punycode.firstCode, (Char.ofNat n).toNat < 128 := by decide
            exact fit (List.mem_map_of_mem listed) (ascii code small)
  · split at read
    · rename_i ascii
      cases read
      exact fun c member => fit member (of_decide_eq_true (List.all_eq_true.mp ascii c member))
    · split at read
      · cases read
        intro c member
        rcases List.mem_append.mp member with front | behind
        · exact mark c front
        · refine Punycode.encode_chars (fun code listed small => ?_) c behind
          obtain ⟨d, inside, rfl⟩ := List.mem_map.mp listed
          rw [Char.ofNat_toNat]
          exact fit inside small
      · cases read

theorem joinLabels_eq (labels : List (List Char)) : joinLabels labels = joinWith '.' labels := by
  fun_induction joinLabels labels with
  | case1 => rfl
  | case2 label => rfl
  | case3 label rest others ih => rw [joinWith, ih]; exact others

theorem exists_of_mem_mapM {α β : Type} {f : α → Option β} {xs : List α} {ys : List β} (each : xs.mapM f = some ys)
    {y : β} (member : y ∈ ys) : ∃ x ∈ xs, f x = some y := by
  induction xs generalizing ys with
  | nil =>
    cases each
    cases member
  | cons x rest ih =>
    rw [List.mapM_cons] at each
    obtain ⟨first, found, each⟩ := Option.bind_eq_some_iff.mp each
    obtain ⟨others, later, each⟩ := Option.bind_eq_some_iff.mp each
    cases each
    rcases List.mem_cons.mp member with rfl | behind
    · exact ⟨x, List.mem_cons_self, found⟩
    · obtain ⟨other, listed, same⟩ := ih later behind
      exact ⟨other, List.mem_cons_of_mem _ listed, same⟩

theorem domainToAscii_chars {bytes : Text.Bytes} {name : List Char} (read : domainToAscii bytes = some name) :
    ∀ c ∈ name, isHostChar c = true := by
  unfold domainToAscii at read
  obtain ⟨mapped, _, read⟩ := Option.bind_eq_some_iff.mp read
  obtain ⟨labels, each, read⟩ := Option.bind_eq_some_iff.mp read
  split at read
  · cases read
  · rename_i plain
    dsimp only at read
    split at read
    · cases read
    · cases read
      intro c member
      rw [joinLabels_eq] at member
      rcases mem_joinWith member with rfl | ⟨part, listed, inside⟩
      · decide
      · obtain ⟨label, among, rfl⟩ := List.mem_map.mp listed
        obtain ⟨text, _, found⟩ := exists_of_mem_mapM each among
        refine Label.ascii_chars found (fun d readable ascii => ?_) c inside
        cases forbidden : isForbidden d with
        | false => rfl
        | true =>
          refine absurd (List.any_eq_true.mpr ⟨label, among, List.any_eq_true.mpr ⟨d, readable, ?_⟩⟩) plain
          simp [ascii, forbidden]

end GuestSandbox.Url
