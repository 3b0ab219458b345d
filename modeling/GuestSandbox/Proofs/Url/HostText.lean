import GuestSandbox.Proofs.Url.Domain
import GuestSandbox.Url.Parser

-- What the text of a host is made of. A domain name and an IPv4 address hold no character that ends a host, and an IPv6
-- address holds colons between its brackets only.

namespace GuestSandbox.Url

def addressChars : List Char := "0123456789abcdef:".toList

inductive HostText : List Char → Prop where
  | plain {text : List Char} (filled : text ≠ []) (chars : ∀ c ∈ text, isHostChar c = true) : HostText text
  | bracketed {address : List Char} (chars : ∀ c ∈ address, c ∈ addressChars) : HostText ('[' :: address ++ [']'])

theorem isHostChar_of_isDigit {c : Char} (digit : c.isDigit = true) : isHostChar c = true := by
  have ascii : c.toNat < 128 := by
    have bounds : 48 ≤ c.toNat ∧ c.toNat ≤ 57 := by
      simpa [Char.isDigit, UInt32.le_iff_toNat_le] using digit
    omega
  exact forall_ascii (P := fun c => c.isDigit = true → isHostChar c = true) (by decide) ascii digit

theorem mem_hexDigits {n : Nat} {c : Char} (member : c ∈ Nat.toDigits 16 n) : c ∈ addressChars := by
  have digit : ∀ d, d < 16 → d.digitChar ∈ addressChars := by decide
  induction n using Nat.strongRecOn with
  | ind n ih =>
    rw [Nat.toDigits_eq_if (by decide)] at member
    split at member
    · rename_i small
      rw [List.mem_singleton.mp member]
      exact digit n small
    · rename_i large
      rcases List.mem_append.mp member with front | last
      · exact ih (n / 16) (Nat.div_lt_self (by omega) (by decide)) front
      · rw [List.mem_singleton.mp last]
        exact digit (n % 16) (Nat.mod_lt _ (by decide))

theorem mem_ipv6Text {pieces : List Nat} {c : Char} (member : c ∈ ipv6Text pieces) : c ∈ addressChars := by
  have colon : ':' ∈ addressChars := by decide
  have inPieces {pieces : List Nat} (member : c ∈ piecesText pieces) : c ∈ addressChars := by
    rcases mem_joinWith member with rfl | ⟨part, listed, inside⟩
    · exact colon
    · obtain ⟨piece, _, rfl⟩ := List.mem_map.mp listed
      exact mem_hexDigits inside
  unfold ipv6Text at member
  dsimp only at member
  split at member
  · exact inPieces member
  · rcases List.mem_append.mp member with front | behind
    · exact inPieces front
    · rcases List.mem_cons.mp behind with rfl | behind
      · exact colon
      · rcases List.mem_cons.mp behind with rfl | back
        · exact colon
        · exact inPieces back

theorem readBracketed_text {cs host : List Char} (read : readBracketed cs = .ok host) : HostText host := by
  unfold readBracketed at read
  split at read
  · cases read
  · split at read
    · cases read
      exact .bracketed fun c member => mem_ipv6Text member
    · cases read

theorem ipv4Text_text (address : Nat) : HostText (ipv4Text address) := by
  refine .plain (fun empty => ?_) (fun c member => ?_)
  · have filled := congrArg List.length empty
    simp [ipv4Text] at filled
  · have digits {n : Nat} (member : c ∈ Nat.toDigits 10 n) : isHostChar c = true :=
      isHostChar_of_isDigit (Nat.isDigit_of_mem_toDigits (by decide) (by decide) member)
    have dot : isHostChar '.' = true := by decide
    simp only [ipv4Text, List.mem_append, List.mem_cons] at member
    rcases member with ((member | rfl | member) | rfl | member) | rfl | member
    · exact digits member
    · exact dot
    · exact digits member
    · exact dot
    · exact digits member
    · exact dot
    · exact digits member

theorem readHost_text {cs host : List Char} (read : readHost cs = .ok host) : HostText host := by
  unfold readHost at read
  split at read
  · exact readBracketed_text read
  · split at read
    · cases read
    · rename_i name domain
      split at read
      · cases read
      · rename_i filled
        split at read
        · split at read
          · cases read
            exact ipv4Text_text _
          · cases read
        · cases read
          exact .plain (fun empty => filled (List.isEmpty_iff.mpr empty)) (domainToAscii_chars domain)

-- What a host never holds: anything that ends it or the credentials in front of it.
def isInAuthority (c : Char) : Bool := isVisible c && !endsAuthority true c && c != '@'

theorem isInAuthority_of_isHostChar {c : Char} (fit : isHostChar c = true) :
    isInAuthority c = true ∧ c ≠ ':' ∧ c ≠ '[' := by
  have ascii : c.toNat < 128 := by simpa using (Bool.and_eq_true_iff.mp fit).1
  have each : ∀ n < 128, isHostChar (Char.ofNat n) = true →
      isInAuthority (Char.ofNat n) = true ∧ Char.ofNat n ≠ ':' ∧ Char.ofNat n ≠ '[' := by
    decide
  exact forall_ascii (P := fun c => isHostChar c = true → isInAuthority c = true ∧ c ≠ ':' ∧ c ≠ '[') each ascii fit

theorem isInAuthority_of_address {c : Char} (fit : c ∈ addressChars) : isInAuthority c = true ∧ c ≠ '[' ∧ c ≠ ']' := by
  have each : addressChars.all (fun c => isInAuthority c && c != '[' && c != ']') = true := by decide
  simpa [and_assoc] using List.all_eq_true.mp each c fit

namespace HostText

variable {text : List Char}

theorem filled (host : HostText text) : text ≠ [] := by
  cases host with
  | plain filled _ => exact filled
  | bracketed _ => exact List.cons_ne_nil _ _

theorem inAuthority (host : HostText text) : ∀ c ∈ text, isInAuthority c = true := by
  cases host with
  | plain _ chars => exact fun c member => (isInAuthority_of_isHostChar (chars c member)).1
  | bracketed chars =>
    intro c member
    rw [List.cons_append, List.mem_cons, List.mem_append, List.mem_singleton] at member
    rcases member with rfl | inside | rfl
    · decide
    · exact (isInAuthority_of_address (chars c inside)).1
    · decide

end HostText

theorem endsAuthority_of_isInAuthority {c : Char} (inside : isInAuthority c = true) : endsAuthority true c = false := by
  simp only [isInAuthority, Bool.and_eq_true, Bool.not_eq_true'] at inside
  exact inside.1.2

def stopsHost (rest : List Char) : Bool := rest.head?.all fun c => c == ':' || endsAuthority true c

theorem splitHost_stop {rest : List Char} (stops : stopsHost rest = true) : splitHost true false rest = ([], rest) := by
  cases rest with
  | nil => rfl
  | cons c rest =>
    have stop : (c == ':' || endsAuthority true c) = true := stops
    rw [splitHost]
    simp [stop]

theorem splitHost_cons {c : Char} {bracketed : Bool} (goes : ((c == ':' && !bracketed) || endsAuthority true c) = false)
    (rest : List Char) :
    splitHost true bracketed (c :: rest) =
      let inside := if c == '[' then true else if c == ']' then false else bracketed
      (c :: (splitHost true inside rest).1, (splitHost true inside rest).2) := by
  rw [splitHost, goes]
  rfl

theorem splitHost_plain {text rest : List Char} (chars : ∀ c ∈ text, isHostChar c = true)
    (stops : stopsHost rest = true) : splitHost true false (text ++ rest) = (text, rest) := by
  induction text with
  | nil => exact splitHost_stop stops
  | cons c text ih =>
    obtain ⟨first, others⟩ := List.forall_mem_cons.mp chars
    obtain ⟨inside, noColon, noBracket⟩ := isInAuthority_of_isHostChar first
    have goes : ((c == ':' && !false) || endsAuthority true c) = false := by
      simp [noColon, endsAuthority_of_isInAuthority inside]
    rw [List.cons_append, splitHost_cons goes]
    simp [noBracket, ih others]

theorem splitHost_bracketed {address rest : List Char} (chars : ∀ c ∈ address, c ∈ addressChars)
    (stops : stopsHost rest = true) :
    splitHost true true (address ++ ']' :: rest) = (address ++ [']'], rest) := by
  induction address with
  | nil =>
    rw [List.nil_append, splitHost_cons (by decide)]
    simp [splitHost_stop stops]
  | cons c address ih =>
    obtain ⟨first, others⟩ := List.forall_mem_cons.mp chars
    obtain ⟨inside, noOpen, noClose⟩ := isInAuthority_of_address first
    have goes : ((c == ':' && !true) || endsAuthority true c) = false := by
      simp [endsAuthority_of_isInAuthority inside]
    rw [List.cons_append, splitHost_cons goes]
    simp [noClose, ih others]

theorem HostText.split {text rest : List Char} (host : HostText text) (stops : stopsHost rest = true) :
    splitHost true false (text ++ rest) = (text, rest) := by
  cases host with
  | plain _ chars => exact splitHost_plain chars stops
  | @bracketed address chars =>
    rw [List.append_assoc, List.cons_append, splitHost_cons (by decide)]
    simp [splitHost_bracketed chars stops]

end GuestSandbox.Url
