import Mathlib.Data.List.Basic
import Mathlib.Algebra.Order.Ring.Int

/-!
# JSON text

Integers, strings, arrays and objects, written without white space and with the escapes of a
compact printer, and the parser that reads such text back.  The parser takes its fuel from the
length of the text, which bounds the nesting of the value.
-/

inductive Json
  | null
  | num (n : Int)
  | str (s : String)
  | arr (items : List Json)
  | obj (fields : List (String × Json))

namespace Json

/-! ## Printing -/

def hexDigit (n : Nat) : Char := "0123456789abcdef".toList.getD n '0'

/-- A character as it stands in a quoted string. -/
def escape (c : Char) : List Char :=
  if c = '"' then ['\\', '"']
  else if c = '\\' then ['\\', '\\']
  else if c = '\x08' then ['\\', 'b']
  else if c = '\x0c' then ['\\', 'f']
  else if c = '\n' then ['\\', 'n']
  else if c = '\r' then ['\\', 'r']
  else if c = '\t' then ['\\', 't']
  else if c.toNat < 32 then
    ['\\', 'u', '0', '0', hexDigit (c.toNat / 16), hexDigit (c.toNat % 16)]
  else [c]

/-- The characters of a string and its closing quote. -/
def stringTail (s : List Char) : List Char := s.flatMap escape ++ ['"']

def printInt (n : Int) : List Char :=
  if n < 0 then '-' :: Nat.toDigits 10 n.natAbs else Nat.toDigits 10 n.natAbs

mutual

def print : Json → List Char
  | .null => "null".toList
  | .num n => printInt n
  | .str s => '"' :: stringTail s.toList
  | .arr [] => ['[', ']']
  | .arr (x :: xs) => '[' :: (print x ++ itemsTail xs)
  | .obj [] => ['\x7b', '\x7d']
  | .obj ((k, v) :: fields) =>
    '\x7b' :: '"' :: (stringTail k.toList ++ ':' :: (print v ++ fieldsTail fields))

/-- The items after the first one and the closing bracket. -/
def itemsTail : List Json → List Char
  | [] => [']']
  | x :: xs => ',' :: (print x ++ itemsTail xs)

/-- The fields after the first one and the closing brace. -/
def fieldsTail : List (String × Json) → List Char
  | [] => ['\x7d']
  | (k, v) :: fields =>
    ',' :: '"' :: (stringTail k.toList ++ ':' :: (print v ++ fieldsTail fields))

end

/-! ## Parsing -/

def hexValue (c : Char) : Option Nat := "0123456789abcdef".toList.findIdx? (· = c)

/-- The character that a simple escape stands for. -/
def unescape (c : Char) : Option Char :=
  if c = '"' then some '"'
  else if c = '\\' then some '\\'
  else if c = 'b' then some '\x08'
  else if c = 'f' then some '\x0c'
  else if c = 'n' then some '\n'
  else if c = 'r' then some '\r'
  else if c = 't' then some '\t'
  else none

/-- The rest of a string, up to its closing quote. -/
def parseString : List Char → Option (List Char × List Char)
  | '"' :: r => some ([], r)
  | '\\' :: 'u' :: '0' :: '0' :: a :: b :: r => do
    let c := Char.ofNat (16 * (← hexValue a) + (← hexValue b))
    (parseString r).map fun p => (c :: p.1, p.2)
  | '\\' :: e :: r => do
    let c ← unescape e
    (parseString r).map fun p => (c :: p.1, p.2)
  | c :: r => (parseString r).map fun p => (c :: p.1, p.2)
  | [] => none

def parseNat (text : List Char) : Option (Nat × List Char) :=
  let digits := text.takeWhile Char.isDigit
  if digits = [] then none else some (Nat.ofDigitChars 10 digits 0, text.dropWhile Char.isDigit)

mutual

def parseValue : Nat → List Char → Option (Json × List Char)
  | 0, _ => none
  | _, [] => none
  | fuel + 1, c :: r =>
    if c = '"' then (parseString r).map fun p => (.str (String.ofList p.1), p.2)
    else if c = '[' then
      if r.head? = some ']' then some (.arr [], r.tail)
      else do
        let (x, r) ← parseValue fuel r
        let (xs, r) ← parseItems fuel r
        return (.arr (x :: xs), r)
    else if c = '\x7b' then
      if r.head? = some '\x7d' then some (.obj [], r.tail)
      else do
        let (field, r) ← parseField fuel r
        let (fields, r) ← parseFields fuel r
        return (.obj (field :: fields), r)
    else if c = '-' then (parseNat r).map fun p => (.num (-p.1), p.2)
    else if c.isDigit then (parseNat (c :: r)).map fun p => (.num p.1, p.2)
    else if (c :: r).take 4 = "null".toList then some (.null, r.drop 3)
    else none

def parseItems : Nat → List Char → Option (List Json × List Char)
  | 0, _ => none
  | _, [] => none
  | fuel + 1, c :: r =>
    if c = ']' then some ([], r)
    else if c = ',' then do
      let (x, r) ← parseValue fuel r
      let (xs, r) ← parseItems fuel r
      return (x :: xs, r)
    else none

/-- A quoted key, a colon and a value. -/
def parseField : Nat → List Char → Option ((String × Json) × List Char)
  | 0, _ => none
  | _, [] => none
  | fuel + 1, c :: r =>
    if c = '"' then do
      let (key, r) ← parseString r
      if r.head? = some ':' then
        (parseValue fuel r.tail).map fun p => ((String.ofList key, p.1), p.2)
      else none
    else none

def parseFields : Nat → List Char → Option (List (String × Json) × List Char)
  | 0, _ => none
  | _, [] => none
  | fuel + 1, c :: r =>
    if c = '\x7d' then some ([], r)
    else if c = ',' then do
      let (field, r) ← parseField fuel r
      let (fields, r) ← parseFields fuel r
      return (field :: fields, r)
    else none

end

/-- A whole text is one value. -/
def parse (text : List Char) : Option Json :=
  match parseValue text.length text with
  | some (j, []) => some j
  | _ => none

/-! ## Round trip -/

theorem hexValue_hexDigit : ∀ d < 16, hexValue (hexDigit d) = some d := by decide +kernel

theorem parseString_escape (c : Char) (r : List Char) :
    parseString (escape c ++ r) = (parseString r).map fun p => (c :: p.1, p.2) := by
  unfold escape
  split_ifs with h1 h2 h3 h4 h5 h6 h7 h8
  · subst h1; simp [parseString, unescape]
  · subst h2; simp [parseString, unescape]
  · subst h3; simp [parseString, unescape]
  · subst h4; simp [parseString, unescape]
  · subst h5; simp [parseString, unescape]
  · subst h6; simp [parseString, unescape]
  · subst h7; simp [parseString, unescape]
  · have hhigh := hexValue_hexDigit (c.toNat / 16) (by omega)
    have hlow := hexValue_hexDigit (c.toNat % 16) (by omega)
    have hc : Char.ofNat (16 * (c.toNat / 16) + c.toNat % 16) = c := by
      rw [Nat.div_add_mod, Char.ofNat_toNat]
    simp [parseString, hhigh, hlow, hc]
  · rw [List.singleton_append, parseString.eq_def]
    split <;> simp_all

theorem parseString_stringTail (s r : List Char) : parseString (stringTail s ++ r) = some (s, r) := by
  induction s with
  | nil => simp [stringTail, parseString]
  | cons c s ih =>
    have hsplit : stringTail (c :: s) ++ r = escape c ++ (stringTail s ++ r) := by
      simp [stringTail]
    rw [hsplit, parseString_escape, ih]
    rfl

/-- What may stand after a value: a number must not go on. -/
def Ends (r : List Char) : Prop := ∀ c ∈ r.head?, c.isDigit = false

theorem ends_nil : Ends [] := by simp [Ends]

theorem ends_cons {c : Char} {r : List Char} (h : c.isDigit = false) : Ends (c :: r) := by
  simpa [Ends] using h

theorem parseNat_toDigits (n : Nat) {r : List Char} (hr : Ends r) :
    parseNat (Nat.toDigits 10 n ++ r) = some (n, r) := by
  have hall : ∀ c ∈ Nat.toDigits 10 n, c.isDigit = true := fun c hc =>
    Nat.isDigit_of_mem_toDigits (by decide) (by decide) hc
  have htake : (Nat.toDigits 10 n ++ r).takeWhile Char.isDigit = Nat.toDigits 10 n := by
    rw [List.takeWhile_append_of_pos hall]
    cases r with
    | nil => simp
    | cons c r => simp [hr c rfl]
  have hdrop : (Nat.toDigits 10 n ++ r).dropWhile Char.isDigit = r := by
    rw [List.dropWhile_append_of_pos hall]
    cases r with
    | nil => simp
    | cons c r => simp [hr c rfl]
  simp only [parseNat, htake, hdrop, if_neg Nat.toDigits_ne_nil, Nat.ofDigitChars_ten_toDigits]

theorem ends_itemsTail (xs : List Json) (r : List Char) : Ends (itemsTail xs ++ r) := by
  cases xs <;> simp only [itemsTail, List.cons_append] <;> exact ends_cons (by decide)

theorem ends_fieldsTail (fields : List (String × Json)) (r : List Char) :
    Ends (fieldsTail fields ++ r) := by
  cases fields <;> simp only [fieldsTail, List.cons_append] <;> exact ends_cons (by decide)

/-- The first character of a value. -/
def Starts (c : Char) : Prop :=
  c = 'n' ∨ c = '"' ∨ c = '[' ∨ c = '\x7b' ∨ c = '-' ∨ c.isDigit = true

theorem toDigits_cons (n : Nat) : ∃ c r, Nat.toDigits 10 n = c :: r ∧ c.isDigit = true := by
  obtain ⟨c, r, h⟩ := List.exists_cons_of_ne_nil (Nat.toDigits_ne_nil (n := n) (b := 10))
  exact ⟨c, r, h, Nat.isDigit_of_mem_toDigits (by decide) (by decide) (h ▸ List.mem_cons_self)⟩

theorem printInt_cons (n : Int) : ∃ c r, printInt n = c :: r ∧ Starts c := by
  unfold printInt
  split_ifs
  · exact ⟨_, _, rfl, by simp [Starts]⟩
  · obtain ⟨c, r, h, hc⟩ := toDigits_cons n.natAbs
    exact ⟨c, r, h, by simp [Starts, hc]⟩

theorem print_cons (j : Json) : ∃ c r, print j = c :: r ∧ Starts c := by
  match j with
  | .null => exact ⟨_, _, by rw [print]; rfl, Or.inl rfl⟩
  | .num n => simpa [print] using printInt_cons n
  | .str _ => exact ⟨_, _, by rw [print], by simp [Starts]⟩
  | .arr [] => exact ⟨_, _, by rw [print], by simp [Starts]⟩
  | .arr (_ :: _) => exact ⟨_, _, by rw [print], by simp [Starts]⟩
  | .obj [] => exact ⟨_, _, by rw [print], by simp [Starts]⟩
  | .obj ((_, _) :: _) => exact ⟨_, _, by rw [print], by simp [Starts]⟩

theorem head_print_ne (j : Json) (r : List Char) : (print j ++ r).head? ≠ some ']' := by
  obtain ⟨c, t, hprint, hstart⟩ := print_cons j
  rw [hprint, List.cons_append, List.head?_cons]
  rintro hc
  cases hc
  exact absurd hstart (by simp [Starts])

theorem parseValue_printInt (n : Int) (fuel : Nat) {r : List Char} (hr : Ends r) :
    parseValue (fuel + 1) (printInt n ++ r) = some (.num n, r) := by
  unfold printInt
  split_ifs with hn
  · obtain ⟨k, rfl⟩ : ∃ k : Nat, n = -(k : Int) := ⟨n.natAbs, by omega⟩
    rw [Int.natAbs_neg, Int.natAbs_natCast]
    simp [parseValue, parseNat_toDigits _ hr]
  · obtain ⟨k, rfl⟩ : ∃ k : Nat, n = (k : Int) := ⟨n.natAbs, by omega⟩
    rw [Int.natAbs_natCast]
    have hparse := parseNat_toDigits k hr
    obtain ⟨c, t, hdigits, hc⟩ := toDigits_cons k
    have hne : c ≠ '"' ∧ c ≠ '[' ∧ c ≠ '\x7b' ∧ c ≠ '-' := by
      refine ⟨?_, ?_, ?_, ?_⟩ <;> (rintro rfl; revert hc; decide)
    rw [hdigits, List.cons_append] at hparse ⊢
    simp [parseValue, hne, hc, hparse]

mutual

theorem parseValue_print : ∀ (j : Json) (fuel : Nat) (r : List Char), (print j).length ≤ fuel →
    Ends r → parseValue fuel (print j ++ r) = some (j, r)
  | j, 0, r, hfuel, _ => by
    obtain ⟨c, t, hprint, -⟩ := print_cons j
    simp [hprint] at hfuel
  | .null, fuel + 1, r, _, _ => by
    simp [print, parseValue, show ("null".toList : List Char) = ['n', 'u', 'l', 'l'] from rfl,
      show Char.isDigit 'n' = false from rfl]
  | .num n, fuel + 1, r, _, hr => by
    rw [print]
    exact parseValue_printInt n fuel hr
  | .str s, fuel + 1, r, _, _ => by
    simp [print, parseValue, parseString_stringTail]
  | .arr [], fuel + 1, r, _, _ => by simp [print, parseValue]
  | .arr (x :: xs), fuel + 1, r, hfuel, _ => by
    simp only [print, List.length_cons, List.length_append] at hfuel
    have hx := parseValue_print x fuel (itemsTail xs ++ r) (by omega) (ends_itemsTail xs r)
    have hxs := parseItems_itemsTail xs fuel r (by omega)
    have hhead := head_print_ne x (itemsTail xs ++ r)
    simp only [print, List.cons_append, List.append_assoc, parseValue, if_neg hhead, hx]
    simp [hxs]
  | .obj [], fuel + 1, r, _, _ => by simp [print, parseValue]
  | .obj ((k, v) :: fields), fuel + 1, r, hfuel, _ => by
    simp only [print, List.length_cons, List.length_append] at hfuel
    have hfield := parseField_print k v fuel (fieldsTail fields ++ r) (by omega)
      (ends_fieldsTail fields r)
    have hfields := parseFields_fieldsTail fields fuel r (by omega)
    simp [print, parseValue, hfield, hfields]

theorem parseField_print : ∀ (k : String) (v : Json) (fuel : Nat) (r : List Char),
    (print v).length + 2 ≤ fuel → Ends r →
      parseField fuel ('"' :: (stringTail k.toList ++ ':' :: (print v ++ r))) = some ((k, v), r)
  | k, v, 0, r, hfuel, _ => by omega
  | k, v, fuel + 1, r, hfuel, hr => by
    have hv := parseValue_print v fuel r (by omega) hr
    simp [parseField, parseString_stringTail, hv]

theorem parseItems_itemsTail : ∀ (xs : List Json) (fuel : Nat) (r : List Char),
    (itemsTail xs).length ≤ fuel → parseItems fuel (itemsTail xs ++ r) = some (xs, r)
  | [], 0, r, hfuel => by simp [itemsTail] at hfuel
  | x :: xs, 0, r, hfuel => by simp [itemsTail] at hfuel
  | [], fuel + 1, r, _ => by simp [itemsTail, parseItems]
  | x :: xs, fuel + 1, r, hfuel => by
    simp only [itemsTail, List.length_cons, List.length_append] at hfuel
    have hx := parseValue_print x fuel (itemsTail xs ++ r) (by omega) (ends_itemsTail xs r)
    have hxs := parseItems_itemsTail xs fuel r (by omega)
    simp [itemsTail, parseItems, hx, hxs]

theorem parseFields_fieldsTail : ∀ (fields : List (String × Json)) (fuel : Nat) (r : List Char),
    (fieldsTail fields).length ≤ fuel →
      parseFields fuel (fieldsTail fields ++ r) = some (fields, r)
  | [], 0, r, hfuel => by simp [fieldsTail] at hfuel
  | (_, _) :: _, 0, r, hfuel => by simp [fieldsTail] at hfuel
  | [], fuel + 1, r, _ => by simp [fieldsTail, parseFields]
  | (k, v) :: fields, fuel + 1, r, hfuel => by
    simp only [fieldsTail, List.length_cons, List.length_append] at hfuel
    have hfield := parseField_print k v fuel (fieldsTail fields ++ r) (by omega)
      (ends_fieldsTail fields r)
    have hfields := parseFields_fieldsTail fields fuel r (by omega)
    simp [fieldsTail, parseFields, hfield, hfields]

end

theorem parse_print (j : Json) : parse (print j) = some j := by
  have h := parseValue_print j (print j).length [] le_rfl ends_nil
  rw [List.append_nil] at h
  rw [parse, h]

/-! ## Bytes -/

/-- The text of a value in UTF-8. -/
def toVec (j : Json) : List UInt8 := (String.ofList (print j)).toUTF8.data.toList

theorem length_toVec (j : Json) : (toVec j).length = ((print j).map Char.utf8Size).sum := by
  simp [toVec, List.utf8Encode, List.length_flatMap]

def fromSlice (bytes : List UInt8) : Option Json :=
  (String.fromUTF8? (ByteArray.mk bytes.toArray)).bind fun text => parse text.toList

theorem fromUTF8_toUTF8 (s : String) : String.fromUTF8? s.toUTF8 = some s :=
  dif_pos s.isValidUTF8

theorem fromSlice_toVec (j : Json) : fromSlice (toVec j) = some j := by
  have hbytes : ByteArray.mk (toVec j).toArray = (String.ofList (print j)).toUTF8 := by
    simp [toVec]
  rw [fromSlice, hbytes, fromUTF8_toUTF8, Option.bind_some, String.toList_ofList, parse_print]

/-! ## Lengths -/

/-- The number of bytes of a text in UTF-8. -/
def utf8Length (text : List Char) : Nat := (text.map Char.utf8Size).sum

@[simp] theorem utf8Length_nil : utf8Length [] = 0 := rfl

@[simp] theorem utf8Length_cons (c : Char) (text : List Char) :
    utf8Length (c :: text) = c.utf8Size + utf8Length text := by
  simp [utf8Length]

@[simp] theorem utf8Length_append (a b : List Char) :
    utf8Length (a ++ b) = utf8Length a + utf8Length b := by
  simp [utf8Length]

/-- The number of bytes of a value. -/
def size (j : Json) : Nat := utf8Length (print j)

theorem utf8Length_toDigits (n : Nat) : utf8Length (Nat.toDigits 10 n) = (Nat.toDigits 10 n).length := by
  have hdigits : ∀ text : List Char, (∀ c ∈ text, c.isDigit = true) →
      utf8Length text = text.length := by
    intro text htext
    induction text with
    | nil => rfl
    | cons c text ih =>
      obtain ⟨hc, htext⟩ := List.forall_mem_cons.1 htext
      have hascii : c.utf8Size = 1 := by
        rw [Char.utf8Size_eq_one_iff]
        simp only [Char.isDigit, Bool.and_eq_true, decide_eq_true_eq] at hc
        exact UInt32.le_trans hc.2 (by decide)
      rw [utf8Length_cons, ih htext, hascii, List.length_cons, Nat.add_comm]
  exact hdigits _ fun c hc => Nat.isDigit_of_mem_toDigits (by decide) (by decide) hc

theorem size_num (n : Int) :
    size (.num n) = (if n < 0 then 1 else 0) + (Nat.toDigits 10 n.natAbs).length := by
  have hsign : Char.utf8Size '-' = 1 := by decide
  simp only [size, print, printInt]
  split_ifs
  · rw [utf8Length_cons, utf8Length_toDigits, hsign]
  · rw [utf8Length_toDigits, Nat.zero_add]

/-- What a field adds to the size of its object. -/
def fieldSize (field : String × Json) : Nat :=
  utf8Length (stringTail field.1.toList) + size field.2 + 3

theorem utf8Length_itemsTail (items : List Json) :
    utf8Length (itemsTail items) = (items.map fun item => size item + 1).sum + 1 := by
  induction items with
  | nil => decide
  | cons item items ih =>
    have hcomma : Char.utf8Size ',' = 1 := by decide
    simp only [itemsTail, utf8Length_cons, utf8Length_append, ih, hcomma, size, List.map_cons,
      List.sum_cons]
    omega

theorem size_arr {items : List Json} (h : items ≠ []) :
    size (.arr items) = (items.map fun item => size item + 1).sum + 1 := by
  obtain ⟨item, rest, rfl⟩ := List.exists_cons_of_ne_nil h
  have hopen : Char.utf8Size '[' = 1 := by decide
  simp only [size, print, utf8Length_cons, utf8Length_append, utf8Length_itemsTail, hopen,
    List.map_cons, List.sum_cons]
  omega

theorem utf8Length_fieldsTail (fields : List (String × Json)) :
    utf8Length (fieldsTail fields) = (fields.map fieldSize).sum + 1 := by
  induction fields with
  | nil => decide
  | cons field fields ih =>
    obtain ⟨k, v⟩ := field
    have hchars : Char.utf8Size ',' = 1 ∧ Char.utf8Size '"' = 1 ∧ Char.utf8Size ':' = 1 := by decide
    simp only [fieldsTail, utf8Length_cons, utf8Length_append, ih, hchars, fieldSize, size,
      List.map_cons, List.sum_cons]
    omega

theorem size_obj {fields : List (String × Json)} (h : fields ≠ []) :
    size (.obj fields) = (fields.map fieldSize).sum + 1 := by
  obtain ⟨⟨k, v⟩, rest, rfl⟩ := List.exists_cons_of_ne_nil h
  have hchars : Char.utf8Size '\x7b' = 1 ∧ Char.utf8Size '"' = 1 ∧ Char.utf8Size ':' = 1 := by decide
  simp only [size, print, utf8Length_cons, utf8Length_append, utf8Length_fieldsTail, hchars,
    fieldSize, List.map_cons, List.sum_cons]
  omega

end Json
