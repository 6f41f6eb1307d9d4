import WastePass.Text.Charset

/-!
# Media types — what a header says about the bytes that follow

    A media type is a type, a subtype and parameters, each a name and a value that may
    be quoted. Only the parameter `charset` matters here. A header with a fault in it
    says nothing at all.
-/

namespace WastePass.Text.MediaType

/-- A parameter: its name and its value. -/
abbrev Parameter := List Char × List Char

/-- A character that names and plain values consist of. -/
def isToken (c : Char) : Bool :=
  c.isAlphanum || "!#$%&'+-.^_\x60|~".toList.contains c

/-- A character that a quoted value may hold. -/
def isQuotable (c : Char) : Bool :=
  32 ≤ c.toNat && c.toNat ≠ 127

/-- A character that a header may hold for it to be looked at. -/
def isVisible (c : Char) : Bool :=
  (32 ≤ c.toNat && c.toNat < 127) || c = '\t'

/-- Reads a name and the sign behind it. -/
def name? (cs : List Char) : Option (List Char × List Char) :=
  match cs.span isToken with
  | ([], _) => none
  | (name, '=' :: rest) => some (name, rest)
  | _ => none

/-- Reads what is left of a quoted value, whose first character may be a quote. -/
def quotedValue? : List Char → Option (List Char × List Char)
  | [] => none
  | c :: cs =>
    if isQuotable c then
      match cs.span fun d => d ≠ '"' && isQuotable d with
      | (value, '"' :: rest) => some (c :: value, rest)
      | _ => none
    else none

/-- Reads a value, and the semicolon behind it if there is one. -/
def value? : List Char → Option (List Char × List Char)
  | '"' :: cs =>
    match quotedValue? cs with
    | none => none
    | some (value, rest) =>
      match rest.dropWhile (· = ' ') with
      | [] => some (value, [])
      | ';' :: rest => some (value, rest)
      | _ => none
  | cs =>
    match cs.span isToken with
    | (value, []) => some (value, [])
    | ([], _ :: _) => none
    | (value, ';' :: rest) => some (value, rest)
    | _ => none

/-- Reads parameters up to the end. `fuel` bounds their number. -/
def parameters? : Nat → List Char → Option (List Parameter)
  | 0, _ => none
  | fuel + 1, cs =>
    match cs.dropWhile (· = ' ') with
    | [] => some []
    | cs => do
      let (name, rest) ← name? cs
      let (value, rest) ← value? rest
      return (name, value) :: (← parameters? fuel rest)

/-- Reads a media type and gives its parameters. -/
def read? (cs : List Char) : Option (List Parameter) :=
  match cs.span isToken with
  | ([], _) => none
  | (_, '/' :: rest) =>
    match rest.span isToken with
    | (_, []) => some []
    | ([], _ :: _) => none
    | (_, ';' :: rest) => parameters? (rest.length + 1) rest
    | _ => none
  | _ => none

/-- Blanks around the value of a header are no part of it. -/
def headerValue (text : String) : List Char :=
  let isBlank (c : Char) : Bool := c = ' ' || c = '\t'
  ((text.toList.dropWhile isBlank).reverse.dropWhile isBlank).reverse

/-- The charset that a header names, if it names one that is known. -/
def charset? (header : String) : Option Charset :=
  let cs := headerValue header
  if cs.all isVisible then do
    let parameters ← read? cs
    let (_, label) ← parameters.find? fun p =>
      p.1.map Char.toLower = ['c', 'h', 'a', 'r', 's', 'e', 't']
    Charset.ofLabel? (String.ofList label)
  else none

end WastePass.Text.MediaType
