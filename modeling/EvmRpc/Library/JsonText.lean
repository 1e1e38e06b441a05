import Mathlib.Algebra.Ring.Nat
import EvmRpc.Library.Json

/-! JSON text: a writer without white space, and a reader. -/
namespace Library.Json

def isNumberChar (c : Char) : Bool := c.isDigit || c == '-' || c == '+' || c == '.' || c == 'e' || c == 'E'

def isSpace (c : Char) : Bool := c == ' ' || c == '\n' || c == '\t' || c == '\r'

def skipSpace (text : List Char) : List Char := text.dropWhile isSpace

def hexDigit (n : ℕ) : Char := if n < 10 then Char.ofNat (48+n) else Char.ofNat (87+n)

def hexValue (c : Char) : Option ℕ :=
  if '0' ≤ c ∧ c ≤ '9' then some (c.toNat-48)
  else if 'a' ≤ c ∧ c ≤ 'f' then some (c.toNat-87)
  else if 'A' ≤ c ∧ c ≤ 'F' then some (c.toNat-55)
  else none

/-- The character that a letter after a backslash stands for. -/
def shortEscape (c : Char) : Option Char :=
  if c = '"' ∨ c = '\\' ∨ c = '/' then some c
  else if c = 'b' then some (Char.ofNat 8)
  else if c = 'f' then some (Char.ofNat 12)
  else if c = 'n' then some '\n'
  else if c = 'r' then some '\r'
  else if c = 't' then some '\t'
  else none

def escape (c : Char) : List Char :=
  if c = '"' then ['\\','"']
  else if c = '\\' then ['\\','\\']
  else if c = Char.ofNat 8 then ['\\','b']
  else if c = Char.ofNat 12 then ['\\','f']
  else if c = '\n' then ['\\','n']
  else if c = '\r' then ['\\','r']
  else if c = '\t' then ['\\','t']
  else if c.toNat < 32 then ['\\','u','0','0',hexDigit (c.toNat/16),hexDigit (c.toNat%16)]
  else [c]

def quote (text : String) : List Char := '"'::(text.toList.flatMap escape ++ ['"'])

mutual
def print : Json → List Char
  | .null => ['n','u','l','l']
  | .bool true => ['t','r','u','e']
  | .bool false => ['f','a','l','s','e']
  | .number token => token.1.toList
  | .string text => quote text
  | .array items => '['::(printItems items ++ [']'])
  | .object members => '\x7b'::(printMembers members ++ ['\x7d'])

def printItems : List Json → List Char
  | [] => []
  | [item] => item.print
  | item::next::rest => item.print ++ ','::printItems (next::rest)

def printMembers : List (String × Json) → List Char
  | [] => []
  | [(name,value)] => quote name ++ ':'::value.print
  | (name,value)::next::rest => quote name ++ ':'::(value.print ++ ','::printMembers (next::rest))
end

def readHex : List Char → Option (ℕ × List Char)
  | a::b::c::d::rest =>
    match hexValue a,hexValue b,hexValue c,hexValue d with
    | some a,some b,some c,some d => some (((a*16+b)*16+c)*16+d,rest)
    | _,_,_,_ => none
  | _ => none

def isLeadSurrogate (code : ℕ) : Bool := 0xD800 ≤ code && code < 0xDC00

def isTrailSurrogate (code : ℕ) : Bool := 0xDC00 ≤ code && code < 0xE000

/-- The character outside of the first plane that two surrogates stand for. -/
def surrogatePair (lead trail : ℕ) : Char := Char.ofNat (0x10000+(lead-0xD800)*0x400+(trail-0xDC00))

/-- A character by its code. Surrogates count in pairs only. -/
def readUnicode (text : List Char) : Option (Char × List Char) :=
  match readHex text with
  | none => none
  | some (code,rest) =>
    if isLeadSurrogate code then
      match rest with
      | '\\':: 'u'::rest =>
        match readHex rest with
        | some (trail,rest) => if isTrailSurrogate trail then some (surrogatePair code trail,rest) else none
        | none => none
      | _ => none
    else if isTrailSurrogate code then none
    else some (Char.ofNat code,rest)

/-- What stands after a backslash. -/
def readEscape : List Char → Option (Char × List Char)
  | [] => none
  | c::rest => if c = 'u' then readUnicode rest else (shortEscape c).map (fun c => (c,rest))

/-- One character within a string. -/
def readChar : List Char → Option (Char × List Char)
  | [] => none
  | c::rest =>
    if c = '"' then none
    else if c = '\\' then readEscape rest
    else if c.toNat < 32 then none
    else some (c,rest)

def readChars : ℕ → List Char → Option (List Char × List Char)
  | 0,_ => none
  | fuel+1,text =>
    match text with
    | '"'::rest => some ([],rest)
    | text =>
      match readChar text with
      | some (c,rest) => (readChars fuel rest).map (fun (text,rest) => (c::text,rest))
      | none => none

/-- The text of a string after its opening quote. -/
def readString (text : List Char) : Option (List Char × List Char) := readChars (text.length+1) text

def readNumber (text : List Char) : Option (Json × List Char) :=
  let token := text.takeWhile isNumberChar
  if valid : isNumber (String.ofList token).toList then
    some (.number ⟨String.ofList token,valid⟩,text.dropWhile isNumberChar)
  else none

def readWord (word : List Char) (value : Json) (text : List Char) : Option (Json × List Char) :=
  if word.isPrefixOf text then some (value,text.drop word.length) else none

mutual
def readValue : ℕ → List Char → Option (Json × List Char)
  | 0,_ => none
  | fuel+1,text =>
    match skipSpace text with
    | [] => none
    | c::rest =>
      if c = '"' then (readString rest).map (fun (text,rest) => (.string (String.ofList text),rest))
      else if c = '[' then
        match skipSpace rest with
        | ']'::rest => some (.array [],rest)
        | rest => (readItems fuel rest).map (fun (items,rest) => (.array items,rest))
      else if c = '\x7b' then
        match skipSpace rest with
        | '\x7d'::rest => some (.object [],rest)
        | rest => (readMembers fuel rest).map (fun (members,rest) => (.object members,rest))
      else if c = 'n' then readWord ['n','u','l','l'] .null (c::rest)
      else if c = 't' then readWord ['t','r','u','e'] (.bool true) (c::rest)
      else if c = 'f' then readWord ['f','a','l','s','e'] (.bool false) (c::rest)
      else readNumber (c::rest)

def readItems : ℕ → List Char → Option (List Json × List Char)
  | 0,_ => none
  | fuel+1,text =>
    match readValue fuel text with
    | none => none
    | some (item,rest) =>
      match skipSpace rest with
      | ','::rest => (readItems fuel rest).map (fun (items,rest) => (item::items,rest))
      | ']'::rest => some ([item],rest)
      | _ => none

def readMembers : ℕ → List Char → Option (List (String × Json) × List Char)
  | 0,_ => none
  | fuel+1,text =>
    match skipSpace text with
    | '"'::rest =>
      match readString rest with
      | none => none
      | some (name,rest) =>
        match skipSpace rest with
        | ':'::rest =>
          match readValue fuel rest with
          | none => none
          | some (value,rest) =>
            match skipSpace rest with
            | ','::rest => (readMembers fuel rest).map (fun (members,rest) => ((String.ofList name,value)::members,rest))
            | '\x7d'::rest => some ([(String.ofList name,value)],rest)
            | _ => none
        | _ => none
    | _ => none
end

def parse (text : List Char) : Option Json :=
  match readValue (text.length+1) text with
  | some (value,rest) => if skipSpace rest = [] then some value else none
  | none => none

section Size

/-- The bytes that a character takes within a string. -/
def escapedCharSize (c : Char) : ℕ :=
  if c ∈ ['"','\\',Char.ofNat 8,Char.ofNat 12,'\n','\r','\t'] then 2
  else if c.toNat < 32 then 6
  else c.utf8Size

def escapedSize (text : String) : ℕ := (text.toList.map escapedCharSize).sum

private theorem utf8Size_hexDigit : ∀ n, n < 16 → (hexDigit n).utf8Size = 1 := by decide

private theorem size_escape (c : Char) : ((escape c).map Char.utf8Size).sum = escapedCharSize c := by
  unfold escape
  split_ifs with quoted escaped backspace feed newline carriage tab control
  · simp only [quoted]
    decide
  · simp only [escaped]
    decide
  · simp only [backspace]
    decide
  · simp only [feed]
    decide
  · simp only [newline]
    decide
  · simp only [carriage]
    decide
  · simp only [tab]
    decide
  · have high := utf8Size_hexDigit (c.toNat/16) (by omega)
    have low := utf8Size_hexDigit (c.toNat%16) (by omega)
    have plain : ('\\' : Char).utf8Size = 1 ∧ ('u' : Char).utf8Size = 1 ∧ ('0' : Char).utf8Size = 1 := by decide
    simp [escapedCharSize,quoted,escaped,backspace,feed,newline,carriage,tab,control,high,low,plain]
  · simp [escapedCharSize,quoted,escaped,backspace,feed,newline,carriage,tab,control]

theorem size_quote (text : String) : ((quote text).map Char.utf8Size).sum = escapedSize text+2 := by
  have inner : ((text.toList.flatMap escape).map Char.utf8Size).sum = escapedSize text := by
    unfold escapedSize
    induction text.toList with
    | nil => rfl
    | cons c rest ih => rw [List.flatMap_cons,List.map_append,List.sum_append,size_escape,ih,List.map_cons,List.sum_cons]
  have mark : ('"' : Char).utf8Size = 1 := by decide
  simp only [quote,List.map_cons,List.map_append,List.map_nil,List.sum_cons,List.sum_append,List.sum_nil,inner,mark]
  omega

end Size

end Library.Json
