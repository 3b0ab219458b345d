import GuestSandbox.Number.Shortest

-- JSON values and their compact text.
-- An object is a list of fields in strictly increasing order of names, so equal objects are equal lists.

namespace GuestSandbox

namespace Json

-- Integers stay integers as long as they fit a word; any other number is the nearest binary64 number.
inductive Num where
  | nat (n : Nat)
  | negative (n : Nat)
  | real (x : Number.Binary64)
deriving Repr, DecidableEq, Inhabited

def Num.text : Num → String
  | .nat n => toString n
  | .negative n => "-" ++ toString n
  | .real x => x.text

end Json

inductive Json where
  | null
  | bool (b : Bool)
  | num (n : Json.Num)
  | str (s : String)
  | arr (items : List Json)
  | obj (fields : List (String × Json))
deriving Repr, Inhabited

namespace Json

mutual
def same : Json → Json → Bool
  | .null, .null => true
  | .bool a, .bool b => a == b
  | .num a, .num b => a == b
  | .str a, .str b => a == b
  | .arr a, .arr b => sameItems a b
  | .obj a, .obj b => sameFields a b
  | _, _ => false

def sameItems : List Json → List Json → Bool
  | [], [] => true
  | a :: as, b :: bs => same a b && sameItems as bs
  | _, _ => false

def sameFields : List (String × Json) → List (String × Json) → Bool
  | [], [] => true
  | (name, a) :: as, (other, b) :: bs => name == other && same a b && sameFields as bs
  | _, _ => false
end

mutual
theorem same_iff (a b : Json) : same a b = true ↔ a = b := by
  cases a <;> cases b <;> simp [same, sameItems_iff, sameFields_iff]

theorem sameItems_iff (as bs : List Json) : sameItems as bs = true ↔ as = bs := by
  cases as with
  | nil => cases bs <;> simp [sameItems]
  | cons a as => cases bs <;> simp [sameItems, same_iff a, sameItems_iff as]

theorem sameFields_iff (as bs : List (String × Json)) : sameFields as bs = true ↔ as = bs := by
  cases as with
  | nil => cases bs <;> simp [sameFields]
  | cons a as =>
    obtain ⟨name, a⟩ := a
    cases bs <;> simp [sameFields, same_iff a, sameFields_iff as, and_assoc, Prod.ext_iff]
end

instance : DecidableEq Json := fun a b => decidable_of_iff _ (same_iff a b)

def insertField {α : Type} (name : String) (value : α) : List (String × α) → List (String × α)
  | [] => [(name, value)]
  | (other, old) :: rest =>
    if name < other then (name, value) :: (other, old) :: rest
    else if name = other then (name, value) :: rest
    else (other, old) :: insertField name value rest

def sortFields {α : Type} (fields : List (String × α)) : List (String × α) :=
  fields.foldl (fun done field => insertField field.1 field.2 done) []

def ofFields (fields : List (String × Json)) : Json := .obj (sortFields fields)

def ofNat (n : Nat) : Json := .num (.nat n)

def ofInt (i : Int) : Json := .num (if i < 0 then .negative i.natAbs else .nat i.natAbs)

def ofOption {α : Type} (encode : α → Json) : Option α → Json
  | none => .null
  | some a => encode a

def ofStrings (texts : List String) : Json := .arr (texts.map .str)

def ofTextMap (entries : List (String × String)) : Json := ofFields (entries.map fun (name, text) => (name, .str text))

def field? (name : String) : Json → Option Json
  | .obj fields => fields.lookup name
  | _ => none

def lowerHexDigit (n : Nat) : Char := Char.ofNat (if n < 10 then 0x30 + n else 0x57 + n)

def escaped (c : Char) : List Char :=
  if c == '"' || c == '\\' then ['\\', c]
  else if c == '\n' then ['\\', 'n']
  else if c == '\r' then ['\\', 'r']
  else if c == '\t' then ['\\', 't']
  else if c.toNat == 8 then ['\\', 'b']
  else if c.toNat == 12 then ['\\', 'f']
  else if c.toNat < 0x20 then ['\\', 'u', '0', '0', lowerHexDigit (c.toNat / 16), lowerHexDigit (c.toNat % 16)]
  else [c]

def quote (text : String) : String := String.ofList ('"' :: text.toList.flatMap escaped ++ ['"'])

mutual
def text : Json → String
  | .null => "null"
  | .bool true => "true"
  | .bool false => "false"
  | .num n => n.text
  | .str s => quote s
  | .arr items => "[" ++ itemsText items ++ "]"
  | .obj fields => "\x7b" ++ fieldsText fields ++ "\x7d"

def itemsText : List Json → String
  | [] => ""
  | [item] => item.text
  | item :: rest => item.text ++ "," ++ itemsText rest

def fieldsText : List (String × Json) → String
  | [] => ""
  | [(name, value)] => quote name ++ ":" ++ value.text
  | (name, value) :: rest => quote name ++ ":" ++ value.text ++ "," ++ fieldsText rest
end

def Ordered {α : Type} (fields : List (String × α)) : Prop := fields.Pairwise (fun a b => a.1 < b.1)

theorem mem_insertField {α : Type} {name : String} {value : α} {fields : List (String × α)} {field : String × α}
    (member : field ∈ insertField name value fields) : field = (name, value) ∨ field ∈ fields := by
  induction fields with
  | nil => simpa [insertField] using member
  | cons head rest ih =>
    obtain ⟨other, old⟩ := head
    unfold insertField at member
    split at member
    · simpa using member
    · split at member
      · rcases List.mem_cons.mp member with new | later
        · exact .inl new
        · exact .inr (List.mem_cons_of_mem _ later)
      · rcases List.mem_cons.mp member with here | later
        · exact .inr (by simp [here])
        · rcases ih later with new | old
          · exact .inl new
          · exact .inr (List.mem_cons_of_mem _ old)

theorem insertField_ordered {α : Type} (name : String) (value : α) (fields : List (String × α))
    (ordered : Ordered fields) : Ordered (insertField name value fields) := by
  induction fields with
  | nil => simp [insertField, Ordered]
  | cons head rest ih =>
    obtain ⟨other, old⟩ := head
    obtain ⟨least, tail⟩ := List.pairwise_cons.mp ordered
    unfold insertField
    split
    · rename_i less
      refine List.pairwise_cons.mpr ⟨fun field member => ?_, ordered⟩
      rcases List.mem_cons.mp member with rfl | later
      · exact less
      · exact String.lt_trans less (least field later)
    · split
      · rename_i _ same
        subst same
        exact List.pairwise_cons.mpr ⟨least, tail⟩
      · rename_i notLess notSame
        refine List.pairwise_cons.mpr ⟨fun field member => ?_, ih tail⟩
        rcases mem_insertField member with rfl | later
        · rcases Std.lt_trichotomy name other with less | same | more
          · exact absurd less notLess
          · exact absurd same notSame
          · exact more
        · exact least field later

theorem sortFields_ordered {α : Type} (fields : List (String × α)) : Ordered (sortFields fields) := by
  have keep : ∀ done : List (String × α), Ordered done →
      Ordered (fields.foldl (fun done field => insertField field.1 field.2 done) done) := by
    induction fields with
    | nil => exact fun _ ordered => ordered
    | cons field rest ih => exact fun done ordered => ih _ (insertField_ordered _ _ _ ordered)
  exact keep [] List.Pairwise.nil

end Json

end GuestSandbox
