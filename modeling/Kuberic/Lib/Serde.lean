import Kuberic.Lib.Base64
import Kuberic.Lib.Json

/-!
# Codecs between values and JSON

A `Codec` carries the proof that decoding inverts encoding, so that a codec of a record is built
from the codecs of its fields.  Records are objects; a field may be left out when it has its default
value, and a record may refuse fields that it does not know.
-/

namespace Serde

structure Codec (α : Type) where
  encode : α → Json
  decode : Json → Option α
  decode_encode : ∀ a, decode (encode a) = some a

attribute [simp] Codec.decode_encode

/-! ## Leaves -/

namespace Codec

def nat : Codec Nat where
  encode n := .num n
  decode
    | .num n => n.toNat?
    | _ => none
  decode_encode _ := rfl

def int : Codec Int where
  encode n := .num n
  decode
    | .num n => some n
    | _ => none
  decode_encode _ := rfl

def string : Codec String where
  encode s := .str s
  decode
    | .str s => some s
    | _ => none
  decode_encode _ := rfl

/-- One byte, as an array of bytes holds it. -/
def byte : Codec UInt8 where
  encode b := .num b.toNat
  decode
    | .num n => if 0 ≤ n ∧ n < 256 then some (UInt8.ofNat n.toNat) else none
    | _ => none
  decode_encode b := by
    have hb := b.toNat_lt
    simp only [show (0 : Int) ≤ b.toNat ∧ (b.toNat : Int) < 256 by omega, and_self, if_true,
      Int.toNat_natCast, UInt8.ofNat_toNat]

/-- Bytes as a base64 string. -/
def base64 : Codec (List UInt8) where
  encode bytes := .str (String.ofList (Base64.encode bytes))
  decode
    | .str s => Base64.decode s.toList
    | _ => none
  decode_encode bytes := by simp [Base64.decode_encode]

theorem escape_base64 {bytes : List UInt8} {c : Char} (h : c ∈ Base64.encode bytes) :
    Json.escape c = [c] ∧ c.utf8Size = 1 := by
  have hplain : ('=' :: Base64.alphabet).all
      (fun c => Json.escape c = [c] ∧ c.utf8Size = 1) = true := by decide +kernel
  exact of_decide_eq_true (List.all_eq_true.1 hplain c (List.mem_cons.2 (Base64.mem_encode h)))

theorem size_base64 (bytes : List UInt8) :
    (base64.encode bytes).size = 4 * ((bytes.length + 2) / 3) + 2 := by
  have hescape : ∀ l : List Char, (∀ c ∈ l, Json.escape c = [c] ∧ c.utf8Size = 1) →
      Json.utf8Length (l.flatMap Json.escape) = l.length := by
    intro l hl
    induction l with
    | nil => rfl
    | cons c l ih =>
      obtain ⟨hc, hl⟩ := List.forall_mem_cons.1 hl
      rw [List.flatMap_cons, hc.1, Json.utf8Length_append, ih hl, List.length_cons, Nat.add_comm]
      simp [hc.2]
  have hquote : Char.utf8Size '"' = 1 := by decide
  have hbody : Json.utf8Length ((Base64.encode bytes).flatMap Json.escape) =
      (Base64.encode bytes).length := hescape _ fun _ hc => escape_base64 hc
  simp only [base64, Json.size, Json.print, Json.stringTail, String.toList_ofList,
    Json.utf8Length_cons, Json.utf8Length_append, Json.utf8Length_nil, hquote, hbody,
    Base64.length_encode]
  omega

/-- A value or `null`. -/
def option {α : Type} (c : Codec α) (hnull : ∀ a, c.encode a ≠ .null) : Codec (Option α) where
  encode
    | none => .null
    | some a => c.encode a
  decode
    | .null => some none
    | j => (c.decode j).map some
  decode_encode
    | none => rfl
    | some a => by
      have hne := hnull a
      have hdecode := c.decode_encode a
      dsimp only
      generalize c.encode a = j at hne hdecode
      cases j <;> simp_all

def decodeAll {α : Type} (c : Codec α) : List Json → Option (List α)
  | [] => some []
  | j :: js => do return (← c.decode j) :: (← decodeAll c js)

theorem decodeAll_map {α : Type} (c : Codec α) (l : List α) :
    c.decodeAll (l.map c.encode) = some l := by
  induction l with
  | nil => rfl
  | cons a l ih => simp [decodeAll, ih]

def list {α : Type} (c : Codec α) : Codec (List α) where
  encode l := .arr (l.map c.encode)
  decode
    | .arr items => c.decodeAll items
    | _ => none
  decode_encode l := c.decodeAll_map l

/-- A type that is built from another one by a checked constructor. -/
def checked {α β : Type} (c : Codec β) (erase : α → β) (build : β → Option α)
    (hbuild : ∀ a, build (erase a) = some a) : Codec α where
  encode a := c.encode (erase a)
  decode j := (c.decode j).bind build
  decode_encode a := by simp [hbuild]

end Codec

/-! ## Records -/

abbrev Fields := List (String × Json)

/-- The fields of an object that may have fields with other names. -/
def openFields : Json → Option Fields
  | .obj fields => some fields
  | _ => none

/-- The fields of an object whose names are all known and different. -/
def closedFields (names : List String) : Json → Option Fields
  | .obj fields =>
    if (∀ f ∈ fields, f.1 ∈ names) ∧ (fields.map Prod.fst).Nodup then some fields else none
  | _ => none

theorem closedFields_obj {names : List String} {fields : Fields} (hnames : names.Nodup)
    (hsub : (fields.map Prod.fst).Sublist names) : closedFields names (.obj fields) = some fields := by
  refine if_pos ⟨fun f hf => hsub.subset (List.mem_map_of_mem hf), hnames.sublist hsub⟩

namespace Fields

def find (name : String) : Fields → Option Json
  | [] => none
  | (k, j) :: fields => if k = name then some j else find name fields

@[simp] theorem find_nil (name : String) : find name [] = none := rfl

@[simp] theorem find_head (name : String) (j : Json) (fields : Fields) :
    find name ((name, j) :: fields) = some j := if_pos rfl

theorem find_tail {name k : String} (h : k ≠ name) (j : Json) (fields : Fields) :
    find name ((k, j) :: fields) = find name fields := if_neg h

@[simp] theorem find_append (name : String) (a b : Fields) :
    find name (a ++ b) = (find name a).or (find name b) := by
  induction a with
  | nil => rfl
  | cons f a ih =>
    obtain ⟨k, j⟩ := f
    by_cases h : k = name
    · subst h
      simp
    · simp [find_tail h, ih]

variable {α : Type} (c : Codec α) (name : String) (fields : Fields)

def get : Option α := (find name fields).bind c.decode

/-- The value of a field that may be left out. -/
def decodeOption : Option Json → Option (Option α)
  | none => some none
  | some j => (c.decode j).map some

/-- A field that is left out when it is `none`. -/
def getOption : Option (Option α) := decodeOption c (find name fields)

/-- A field that is left out when it has its default value. -/
def getD (default : α) : Option α := (decodeOption c (find name fields)).map (·.getD default)

/-- The field of an optional value, when there is one. -/
def ofOption (value : Option α) : Fields := (value.map fun a => (name, c.encode a)).toList

@[simp] theorem decodeOption_none : decodeOption c none = some none := rfl

@[simp] theorem decodeOption_encode (a : α) : decodeOption c (some (c.encode a)) = some (some a) := by
  simp [decodeOption]

@[simp] theorem decodeOption_map_encode (value : Option α) :
    decodeOption c (value.map c.encode) = some value := by
  cases value <;> simp

@[simp] theorem find_ofOption (value : Option α) :
    find name (ofOption c name value) = value.map c.encode := by
  cases value <;> simp [ofOption]

theorem find_ofOption_ne {name key : String} (h : name ≠ key) (value : Option α) :
    find key (ofOption c name value) = none := by
  cases value <;> simp [ofOption, find_tail h]

theorem keys_ofOption_sublist (value : Option α) :
    ((ofOption c name value).map Prod.fst).Sublist [name] := by
  cases value <;> simp [ofOption]

end Fields

end Serde
