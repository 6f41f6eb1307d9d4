import WastePass.Json.Shape

/-!
# Spelling — every way to write a text, a list, a record, or any value at all

    `TextSpelling s cs` says that the characters `cs` write the text `s`: each character
    plain or by any of its escapes.  Lists and objects hold their items between
    brackets with commas and any spaces.  A record is written as an object, its
    members in any order among others, or as a list of its fields in their order.
    `Value` holds of every well-formed value and says nothing about what it means.

    None of this mentions a reader: the relations are the notation itself.
-/

namespace WastePass.Json

/-! ## Spaces and escapes -/

/-- Characters that may stand between the parts of a document. -/
def Spaces (cs : List Char) : Prop :=
  ∀ c ∈ cs, c = ' ' ∨ c = '\n' ∨ c = '\t' ∨ c = '\r'

/-- The hexadecimal digits and their values. -/
def hexDigits : List (Char × Nat) :=
  [('0', 0), ('1', 1), ('2', 2), ('3', 3), ('4', 4), ('5', 5), ('6', 6), ('7', 7),
   ('8', 8), ('9', 9), ('a', 10), ('b', 11), ('c', 12), ('d', 13), ('e', 14), ('f', 15),
   ('A', 10), ('B', 11), ('C', 12), ('D', 13), ('E', 14), ('F', 15)]

/-- The letters that stand for a character behind a backslash. -/
def shortEscapes : List (Char × Char) :=
  [('"', '"'), ('\\', '\\'), ('/', '/'), ('b', '\x08'), ('f', '\x0c'), ('n', '\n'),
   ('r', '\r'), ('t', '\t')]

/-- Four hexadecimal digits write sixteen bits. -/
inductive HexUnit : List Char → Nat → Prop
  | digits {a b c d : Char} {i j k l : Nat} (ha : (a, i) ∈ hexDigits)
      (hb : (b, j) ∈ hexDigits) (hc : (c, k) ∈ hexDigits) (hd : (d, l) ∈ hexDigits) :
      HexUnit [a, b, c, d] (4096 * i + 256 * j + 16 * k + l)

/-! ## Texts -/

/-- The ways to write one character of a text.  Beyond sixteen bits it takes two units. -/
inductive CharSpelling (c : Char) : List Char → Prop
  | plain (hquote : c ≠ '"') (hslash : c ≠ '\\') (hcontrol : 32 ≤ c.toNat) :
      CharSpelling c [c]
  | short {l : Char} (h : (l, c) ∈ shortEscapes) : CharSpelling c ['\\', l]
  | unit {ds : List Char} (h : HexUnit ds c.toNat) : CharSpelling c ('\\' :: 'u' :: ds)
  | pair {ds es : List Char} {m n : Nat} (hds : HexUnit ds m) (hes : HexUnit es n)
      (hm : 0xD800 ≤ m ∧ m ≤ 0xDBFF) (hn : 0xDC00 ≤ n ∧ n ≤ 0xDFFF)
      (h : c.toNat = 0x10000 + 0x400 * (m - 0xD800) + (n - 0xDC00)) :
      CharSpelling c ('\\' :: 'u' :: (ds ++ '\\' :: 'u' :: es))

/-- What stands between the quotes of a text. -/
inductive TextBody : List Char → List Char → Prop
  | nil : TextBody [] []
  | cons {c : Char} {s cs ds : List Char} (hc : CharSpelling c cs) (hs : TextBody s ds) :
      TextBody (c :: s) (cs ++ ds)

/-- The characters write the text, quotes included. -/
inductive TextSpelling (s : String) : List Char → Prop
  | quoted {body : List Char} (h : TextBody s.toList body) :
      TextSpelling s ('"' :: (body ++ ['"']))

/-- Characters that need no escape stand for themselves. -/
theorem TextBody.of_plain {cs : List Char}
    (h : cs.all fun c => c != '"' && c != '\\' && 32 ≤ c.toNat) : TextBody cs cs := by
  induction cs with
  | nil => exact TextBody.nil
  | cons c cs ih =>
      simp only [List.all_cons, Bool.and_eq_true, bne_iff_ne, decide_eq_true_eq] at h
      obtain ⟨⟨⟨hquote, hslash⟩, hcontrol⟩, hcs⟩ := h
      exact TextBody.cons (CharSpelling.plain hquote hslash hcontrol) (ih hcs)

/-- What may stand between the quotes of a text that nobody asks for.  Units need not
    make characters there. -/
inductive LooseBody : List Char → Prop
  | nil : LooseBody []
  | plain {c : Char} {cs : List Char} (hquote : c ≠ '"') (hslash : c ≠ '\\')
      (hcontrol : 32 ≤ c.toNat) (hcs : LooseBody cs) : LooseBody (c :: cs)
  | short {l c : Char} {cs : List Char} (h : (l, c) ∈ shortEscapes) (hcs : LooseBody cs) :
      LooseBody ('\\' :: l :: cs)
  | unit {ds cs : List Char} {n : Nat} (h : HexUnit ds n) (hcs : LooseBody cs) :
      LooseBody ('\\' :: 'u' :: (ds ++ cs))

/-- A well-formed text. -/
inductive LooseText : List Char → Prop
  | quoted {body : List Char} (h : LooseBody body) : LooseText ('"' :: (body ++ ['"']))

/-! ## Numbers -/

/-- One digit or more. -/
def Digits (cs : List Char) : Prop :=
  cs ≠ [] ∧ ∀ c ∈ cs, c.isDigit = true

/-- A whole number, without zeros in front. -/
inductive Whole : List Char → Prop
  | zero : Whole ['0']
  | digits {c : Char} {cs : List Char} (h : Digits (c :: cs)) (hc : c ≠ '0') : Whole (c :: cs)

/-- A fraction, if there is one. -/
inductive Fraction : List Char → Prop
  | none : Fraction []
  | some {ds : List Char} (h : Digits ds) : Fraction ('.' :: ds)

/-- An exponent, if there is one. -/
inductive Exponent : List Char → Prop
  | none : Exponent []
  | some {e : Char} {sign ds : List Char} (he : e = 'e' ∨ e = 'E')
      (hsign : sign = [] ∨ sign = ['+'] ∨ sign = ['-']) (h : Digits ds) :
      Exponent (e :: (sign ++ ds))

/-- A number. -/
inductive NumberSpelling : List Char → Prop
  | parts {sign whole fraction exponent : List Char} (hsign : sign = [] ∨ sign = ['-'])
      (hwhole : Whole whole) (hfraction : Fraction fraction) (hexponent : Exponent exponent) :
      NumberSpelling (sign ++ (whole ++ (fraction ++ exponent)))

/-! ## Values of any kind -/

namespace Enclosure

/-- The bracket that opens a list or an object. -/
def opening : Enclosure → Char
  | .list => '['
  | .object => '\x7b'

/-- The bracket that closes it. -/
def closing : Enclosure → Char
  | .list => ']'
  | .object => '\x7d'

end Enclosure

/-- The parts of a value: one item of a list, which is a value, or of an object, which is
    a key and a value; and all the items of either. -/
inductive Part where
  | one (e : Enclosure)
  | all (e : Enclosure)

/-- The well-formed parts. -/
inductive WellFormed : Part → List Char → Prop
  | null : WellFormed (.one .list) ['n', 'u', 'l', 'l']
  | yes : WellFormed (.one .list) ['t', 'r', 'u', 'e']
  | no : WellFormed (.one .list) ['f', 'a', 'l', 's', 'e']
  | number {cs : List Char} (h : NumberSpelling cs) : WellFormed (.one .list) cs
  | text {cs : List Char} (h : LooseText cs) : WellFormed (.one .list) cs
  | empty (e : Enclosure) {ws : List Char} (hws : Spaces ws) :
      WellFormed (.one .list) (e.opening :: (ws ++ [e.closing]))
  | enclosed {e : Enclosure} {cs : List Char} (h : WellFormed (.all e) cs) :
      WellFormed (.one .list) (e.opening :: (cs ++ [e.closing]))
  | member {key ws vs cs : List Char} (hkey : LooseText key) (hws : Spaces ws)
      (hvs : Spaces vs) (h : WellFormed (.one .list) cs) :
      WellFormed (.one .object) (key ++ (ws ++ ':' :: (vs ++ cs)))
  | last {e : Enclosure} {ws cs vs : List Char} (hws : Spaces ws)
      (h : WellFormed (.one e) cs) (hvs : Spaces vs) :
      WellFormed (.all e) (ws ++ (cs ++ vs))
  | more {e : Enclosure} {ws cs vs ds : List Char} (hws : Spaces ws)
      (h : WellFormed (.one e) cs) (hvs : Spaces vs) (hds : WellFormed (.all e) ds) :
      WellFormed (.all e) (ws ++ (cs ++ (vs ++ ',' :: ds)))

/-- A well-formed value of any kind, nested to any depth. -/
abbrev Value (cs : List Char) : Prop :=
  WellFormed (.one .list) cs

/-! ## Lists and objects of a known shape -/

/-- Items between commas, each with any spaces around it. -/
inductive Items {α : Type} (item : α → List Char → Prop) : List α → List Char → Prop
  | last {x : α} {ws cs vs : List Char} (hws : Spaces ws) (h : item x cs) (hvs : Spaces vs) :
      Items item [x] (ws ++ (cs ++ vs))
  | more {x : α} {xs : List α} {ws cs vs ds : List Char} (hws : Spaces ws) (h : item x cs)
      (hvs : Spaces vs) (hxs : Items item xs ds) :
      Items item (x :: xs) (ws ++ (cs ++ (vs ++ ',' :: ds)))

/-- Items between brackets. -/
inductive Enclosed {α : Type} (e : Enclosure) (item : α → List Char → Prop) :
    List α → List Char → Prop
  | empty {ws : List Char} (hws : Spaces ws) :
      Enclosed e item [] (e.opening :: (ws ++ [e.closing]))
  | items {xs : List α} {cs : List Char} (h : Items item xs cs) :
      Enclosed e item xs (e.opening :: (cs ++ [e.closing]))

/-- A list of the given elements. -/
abbrev ListSpelling {α : Type} (item : α → List Char → Prop) : List α → List Char → Prop :=
  Enclosed .list item

/-- A member of an object: the text of its key and the characters of its value. -/
inductive MemberSpelling : String × List Char → List Char → Prop
  | keyed {name : String} {key ws vs cs : List Char} (hkey : TextSpelling name key)
      (hws : Spaces ws) (hvs : Spaces vs) :
      MemberSpelling (name, cs) (key ++ (ws ++ ':' :: (vs ++ cs)))

/-- An object of the given members. -/
abbrev ObjectSpelling : List (String × List Char) → List Char → Prop :=
  Enclosed .object MemberSpelling

/-! ## Records -/

/-- What a field may be written as; `none` where it is left out. -/
abbrev Slot := Option (List Char) → Prop

namespace Slot

/-- A field that has to be written. -/
def required (spelling : List Char → Prop) : Slot
  | none => False
  | some cs => spelling cs

/-- A field that may be left out when it holds what it holds by default. -/
def optional (isDefault : Prop) (spelling : List Char → Prop) : Slot
  | none => isDefault
  | some cs => spelling cs

end Slot

/-- The values of all members with a key. -/
def valuesOf (name : String) (members : List (String × List Char)) : List (List Char) :=
  (members.filter fun m => m.1 = name).map (·.2)

/-- Fields written one after the other, where those at the end may be left out. -/
def InOrder : List (String × Slot) → List (List Char) → Prop
  | [], values => values = []
  | field :: fields, values => field.2 values.head? ∧ InOrder fields values.tail

/-- A record of the given fields.  As an object it has each field once, or not at all
    where the field may be left out, and beside them members of other names if it is
    not `closed`.  As a list it has its fields in their order. -/
inductive RecordSpelling (fields : List (String × Slot)) (closed : Bool) : List Char → Prop
  | object {members : List (String × List Char)} {cs : List Char}
      (h : ObjectSpelling members cs)
      (known : ∀ field ∈ fields, ∃ value : Option (List Char),
        valuesOf field.1 members = value.toList ∧ field.2 value)
      (others : ∀ m ∈ members, m.1 ∉ fields.map (·.1) → closed = false ∧ Value m.2) :
      RecordSpelling fields closed cs
  | list {values : List (List Char)} {cs : List Char}
      (h : ListSpelling (fun value cs => cs = value) values cs)
      (fits : InOrder fields values) :
      RecordSpelling fields closed cs

end WastePass.Json
