import EvmRpc.Library.JsonText

/-! The grammar of JSON texts. The reader finds the tree of every text of the grammar
and reads no other text; the writer stays within the grammar. -/
namespace Library.Json

namespace Grammar

def Blank (text : List Char) : Prop := ∀ c ∈ text, isSpace c = true

/-- The ways to write one character within a string. -/
inductive Character : Char → List Char → Prop
  | plain (c : Char) (unquoted : c ≠ '"') (unescaped : c ≠ '\\') (printed : 32 ≤ c.toNat) : Character c [c]
  | short (letter c : Char) (known : shortEscape letter = some c) : Character c ['\\',letter]
  | unicode (digits : List Char) (code : ℕ) (read : readHex digits = some (code,[]))
      (notLead : isLeadSurrogate code = false) (notTrail : isTrailSurrogate code = false) :
      Character (Char.ofNat code) ('\\':: 'u'::digits)
  | pair (first second : List Char) (lead trail : ℕ) (readLead : readHex first = some (lead,[]))
      (readTrail : readHex second = some (trail,[])) (isLead : isLeadSurrogate lead = true)
      (isTrail : isTrailSurrogate trail = true) :
      Character (surrogatePair lead trail) ('\\':: 'u'::(first ++ '\\':: 'u'::second))

inductive Characters : List Char → List Char → Prop
  | nil : Characters [] []
  | cons {c : Char} {text first rest : List Char} (head : Character c first) (tail : Characters text rest) :
      Characters (c::text) (first ++ rest)

mutual
inductive Value : Json → List Char → Prop
  | null : Value .null ['n','u','l','l']
  | true : Value (.bool true) ['t','r','u','e']
  | false : Value (.bool false) ['f','a','l','s','e']
  | number (token : Number) : Value (.number token) token.1.toList
  | string (text : String) (written : List Char) (characters : Characters text.toList written) :
      Value (.string text) ('"'::(written ++ ['"']))
  | emptyArray (space : List Char) (blank : Blank space) : Value (.array []) ('['::(space ++ [']']))
  | array (items : List Json) (written : List Char) (elements : Elements items written) :
      Value (.array items) ('['::(written ++ [']']))
  | emptyObject (space : List Char) (blank : Blank space) : Value (.object []) ('\x7b'::(space ++ ['\x7d']))
  | object (entries : List (String × Json)) (written : List Char) (members : Members entries written) :
      Value (.object entries) ('\x7b'::(written ++ ['\x7d']))
/-- A value between blanks, as a whole text is. -/
inductive Element : Json → List Char → Prop
  | spaced (value : Json) (before written after : List Char) (blankBefore : Blank before)
      (meaning : Value value written) (blankAfter : Blank after) :
      Element value (before ++ (written ++ after))
inductive Elements : List Json → List Char → Prop
  | last (item : Json) (written : List Char) (element : Element item written) : Elements [item] written
  | more (item : Json) (items : List Json) (written others : List Char) (element : Element item written)
      (elements : Elements items others) : Elements (item::items) (written ++ ','::others)
inductive Member : String → Json → List Char → Prop
  | named (name : String) (value : Json) (before quoted after written : List Char) (blankBefore : Blank before)
      (characters : Characters name.toList quoted) (blankAfter : Blank after) (element : Element value written) :
      Member name value (before ++ '"'::(quoted ++ '"'::(after ++ ':'::written)))
inductive Members : List (String × Json) → List Char → Prop
  | last (name : String) (value : Json) (written : List Char) (member : Member name value written) :
      Members [(name,value)] written
  | more (name : String) (value : Json) (entries : List (String × Json)) (written others : List Char)
      (member : Member name value written) (members : Members entries others) :
      Members ((name,value)::entries) (written ++ ','::others)
end

section Strings

theorem readHex_append {text left : List Char} {code : ℕ} (read : readHex text = some (code,left))
    (rest : List Char) : readHex (text ++ rest) = some (code,left ++ rest) := by
  unfold readHex at read
  split at read
  · rename_i a b c d tail
    rw [List.cons_append,List.cons_append,List.cons_append,List.cons_append,readHex]
    split at read
    · cases read
      simp [*]
    · contradiction
  · contradiction

theorem readHex_split {text rest : List Char} {code : ℕ} (read : readHex text = some (code,rest)) :
    ∃ digits, readHex digits = some (code,[]) ∧ text = digits ++ rest := by
  unfold readHex at read
  split at read
  · rename_i a b c d tail
    refine ⟨[a,b,c,d],?_,?_⟩
    · rw [readHex]
      split at read
      · cases read
        simp [*]
      · contradiction
    · split at read <;> cases read
      rfl
  · contradiction

theorem readChar_of_character {c : Char} {written : List Char} (character : Character c written)
    (rest : List Char) : readChar (written ++ rest) = some (c,rest) := by
  cases character with
  | plain c unquoted unescaped printed =>
    have visible : ¬ c.toNat < 32 := by omega
    simp [readChar,unquoted,unescaped,visible]
  | short letter c known =>
    have letter_ne : letter ≠ 'u' := by
      rintro rfl
      simp [shortEscape] at known
    simp [readChar,readEscape,letter_ne,known]
  | unicode digits code read notLead notTrail =>
    have whole := readHex_append read rest
    simp [readChar,readEscape,readUnicode,whole,notLead,notTrail]
  | pair first second lead trail readLead readTrail isLead isTrail =>
    have whole := readHex_append readLead ('\\':: 'u'::(second ++ rest))
    have remainder := readHex_append readTrail rest
    simp [readChar,readEscape,readUnicode,whole,remainder,isLead,isTrail]

theorem character_of_readUnicode {text rest : List Char} {c : Char} (read : readUnicode text = some (c,rest)) :
    ∃ written, Character c ('\\':: 'u'::written) ∧ text = written ++ rest := by
  unfold readUnicode at read
  split at read
  · contradiction
  · rename_i code left first
    obtain ⟨digits,digit,rfl⟩ := readHex_split first
    split at read
    · rename_i lead
      split at read
      · rename_i after
        split at read
        · rename_i trail left second
          obtain ⟨others,other,rfl⟩ := readHex_split second
          split at read
          · rename_i isTrail
            obtain ⟨rfl,rfl⟩ := Prod.mk.inj (Option.some.inj read)
            refine ⟨digits ++ '\\':: 'u'::others,.pair digits others code trail digit other lead isTrail,?_⟩
            simp
          · contradiction
        · contradiction
      · contradiction
    · rename_i notLead
      split at read
      · contradiction
      · rename_i notTrail
        obtain ⟨rfl,rfl⟩ := Prod.mk.inj (Option.some.inj read)
        exact ⟨digits,.unicode digits code digit (by simpa using notLead) (by simpa using notTrail),rfl⟩

theorem character_of_readChar {text rest : List Char} {c : Char} (read : readChar text = some (c,rest)) :
    ∃ written, Character c written ∧ text = written ++ rest := by
  cases text with
  | nil => contradiction
  | cons first left =>
    simp only [readChar] at read
    split_ifs at read with quoted escaped control
    · subst first
      cases left with
      | nil => contradiction
      | cons letter left =>
        simp only [readEscape] at read
        split_ifs at read with unicode
        · subst letter
          obtain ⟨written,character,rfl⟩ := character_of_readUnicode read
          exact ⟨_,character,rfl⟩
        · obtain ⟨found,known,same⟩ := Option.map_eq_some_iff.mp read
          obtain ⟨rfl,rfl⟩ := Prod.mk.inj same
          exact ⟨_,.short letter found known,rfl⟩
    · obtain ⟨rfl,rfl⟩ := Prod.mk.inj (Option.some.inj read)
      exact ⟨[first],.plain first quoted escaped (by omega),rfl⟩

/-- No character is written as nothing or begins with a quote. -/
theorem Character.head {c : Char} {written : List Char} (character : Character c written) :
    ∃ first rest, written = first::rest ∧ first ≠ '"' := by
  cases character with
  | plain c unquoted => exact ⟨c,[],rfl,unquoted⟩
  | short => exact ⟨_,_,rfl,by decide⟩
  | unicode => exact ⟨_,_,rfl,by decide⟩
  | pair => exact ⟨_,_,rfl,by decide⟩

theorem readChars_of_characters {text written : List Char} (characters : Characters text written)
    (rest : List Char) {fuel : ℕ} (enough : written.length < fuel) :
    readChars fuel (written ++ '"'::rest) = some (text,rest) := by
  induction characters generalizing fuel with
  | nil =>
    obtain ⟨fuel,rfl⟩ := Nat.exists_eq_succ_of_ne_zero (by omega : fuel ≠ 0)
    rfl
  | @cons c text first others head tail ih =>
    obtain ⟨fuel,rfl⟩ := Nat.exists_eq_succ_of_ne_zero (by omega : fuel ≠ 0)
    obtain ⟨start,after,rfl,unquoted⟩ := head.head
    have read := readChar_of_character head (others ++ '"'::rest)
    have remainder := @ih fuel (by simp at enough; omega)
    rw [List.append_assoc,List.cons_append] at *
    simp [readChars,unquoted,read,remainder]

theorem characters_of_readChars {fuel : ℕ} {text found rest : List Char}
    (read : readChars fuel text = some (found,rest)) :
    ∃ written, Characters found written ∧ text = written ++ '"'::rest := by
  induction fuel generalizing text found rest with
  | zero => contradiction
  | succ fuel ih =>
    simp only [readChars] at read
    split at read
    · cases read
      exact ⟨[],.nil,rfl⟩
    · split at read
      · rename_i first
        obtain ⟨pair,later,same⟩ := Option.map_eq_some_iff.mp read
        cases same
        obtain ⟨written,character,rfl⟩ := character_of_readChar first
        obtain ⟨others,characters,rfl⟩ := ih later
        exact ⟨written ++ others,.cons character characters,by simp⟩
      · contradiction

theorem readString_of_characters {text written : List Char} (characters : Characters text written)
    (rest : List Char) : readString (written ++ '"'::rest) = some (text,rest) := by
  apply readChars_of_characters characters rest
  rw [List.length_append,List.length_cons]
  omega

theorem characters_of_readString {text found rest : List Char} (read : readString text = some (found,rest)) :
    ∃ written, Characters found written ∧ text = written ++ '"'::rest := characters_of_readChars read

private theorem hexValue_hexDigit : ∀ n, n < 16 → hexValue (hexDigit n) = some n := by decide

private theorem readHex_control {code : ℕ} (control : code < 32) :
    readHex ['0','0',hexDigit (code/16),hexDigit (code%16)] = some (code,[]) := by
  have high := hexValue_hexDigit (code/16) (by omega)
  have low := hexValue_hexDigit (code%16) (by omega)
  have zero : hexValue '0' = some 0 := by decide
  simp only [readHex,high,low,zero,Option.some.injEq,Prod.mk.injEq,and_true]
  omega

theorem character_escape (c : Char) : Character c (escape c) := by
  unfold escape
  split_ifs with quoted escaped backspace feed newline carriage tab control
  · exact .short _ _ (by simp [shortEscape,quoted])
  · exact .short _ _ (by simp [shortEscape,escaped])
  · exact .short _ _ (by simp [shortEscape,backspace])
  · exact .short _ _ (by simp [shortEscape,feed])
  · exact .short _ _ (by simp [shortEscape,newline])
  · exact .short _ _ (by simp [shortEscape,carriage])
  · exact .short _ _ (by simp [shortEscape,tab])
  · have read := readHex_control control
    have written := Character.unicode _ c.toNat read (by simp [isLeadSurrogate]; omega) (by simp [isTrailSurrogate]; omega)
    rwa [Char.ofNat_toNat] at written
  · exact .plain c quoted escaped (by omega)

theorem characters_escape (text : List Char) : Characters text (text.flatMap escape) := by
  induction text with
  | nil => exact .nil
  | cons c text ih =>
    rw [List.flatMap_cons]
    exact .cons (character_escape c) ih

end Strings

section Blanks

theorem blank_nil : Blank [] := by simp [Blank]

theorem Blank.append {first second : List Char} (blank : Blank first) (others : Blank second) :
    Blank (first ++ second) := by
  intro c inside
  rcases List.mem_append.mp inside with before | after
  · exact blank c before
  · exact others c after

theorem skipSpace_blank {space : List Char} (blank : Blank space) (rest : List Char) :
    skipSpace (space ++ rest) = skipSpace rest := by
  rw [skipSpace,List.dropWhile_append_of_pos blank]
  rfl

theorem skipSpace_cons {c : Char} {rest : List Char} (visible : isSpace c = false) :
    skipSpace (c::rest) = c::rest := by simp [skipSpace,visible]

theorem skipSpace_blank_cons {space : List Char} (blank : Blank space) {c : Char} {rest : List Char}
    (visible : isSpace c = false) : skipSpace (space ++ c::rest) = c::rest := by
  rw [skipSpace_blank blank,skipSpace_cons visible]

theorem skipSpace_split (text : List Char) : ∃ space, Blank space ∧ text = space ++ skipSpace text :=
  ⟨text.takeWhile isSpace,List.all_eq_true.mp List.all_takeWhile,List.takeWhile_append_dropWhile.symm⟩

theorem skipSpace_idem (text : List Char) : skipSpace (skipSpace text) = skipSpace text := by
  obtain ⟨space,blank,same⟩ := skipSpace_split text
  have skipped := skipSpace_blank blank (skipSpace text)
  rw [← same] at skipped
  exact skipped.symm

theorem readValue_skipSpace (fuel : ℕ) (text : List Char) : readValue fuel (skipSpace text) = readValue fuel text := by
  cases fuel with
  | zero => rfl
  | succ fuel => simp only [readValue,skipSpace_idem]

theorem readItems_skipSpace (fuel : ℕ) (text : List Char) : readItems fuel (skipSpace text) = readItems fuel text := by
  cases fuel with
  | zero => rfl
  | succ fuel => simp only [readItems,readValue_skipSpace]

theorem readMembers_skipSpace (fuel : ℕ) (text : List Char) :
    readMembers fuel (skipSpace text) = readMembers fuel text := by
  cases fuel with
  | zero => rfl
  | succ fuel => simp only [readMembers,skipSpace_idem]

theorem readValue_blank (fuel : ℕ) {space : List Char} (blank : Blank space) (text : List Char) :
    readValue fuel (space ++ text) = readValue fuel text := by
  rw [← readValue_skipSpace,skipSpace_blank blank,readValue_skipSpace]

end Blanks

section Numbers

private theorem next_isNumberChar {phase after : NumberPhase} {c : Char} (step : phase.next c = some after) :
    isNumberChar c = true := by
  unfold isNumberChar
  cases phase <;>
    simp only [NumberPhase.next,NumberPhase.digit,NumberPhase.scale,Option.orElse] at step <;>
    split_ifs at step <;> simp_all
  all_goals aesop

private theorem isNumberChar_of_foldlM {text : List Char} {phase after : NumberPhase}
    (whole : text.foldlM NumberPhase.next phase = some after) : ∀ c ∈ text, isNumberChar c = true := by
  induction text generalizing phase with
  | nil => simp
  | cons d text ih =>
    rw [List.foldlM_cons] at whole
    obtain ⟨middle,step,others⟩ := Option.bind_eq_some_iff.mp whole
    intro c inside
    rcases List.mem_cons.mp inside with rfl | later
    · exact next_isNumberChar step
    · exact ih others c later

private theorem isNumberChar_of_isNumber {text : List Char} (valid : isNumber text = true) :
    ∀ c ∈ text, isNumberChar c = true := by
  unfold isNumber at valid
  split at valid
  · rename_i phase whole
    exact isNumberChar_of_foldlM whole
  · contradiction

private theorem number_head {text : List Char} (valid : isNumber text = true) :
    ∃ c rest, text = c::rest ∧ isNumberChar c = true := by
  cases text with
  | nil => contradiction
  | cons c rest => exact ⟨c,rest,rfl,isNumberChar_of_isNumber valid c (by simp)⟩

private theorem isNumberChar_ne {c d : Char} (number : isNumberChar c = true) (other : isNumberChar d = false) :
    c ≠ d := by
  rintro rfl
  simp [number] at other

private theorem isNumberChar_of_isSpace {c : Char} (blank : isSpace c = true) : isNumberChar c = false := by
  unfold isSpace at blank
  simp only [Bool.or_eq_true,beq_iff_eq] at blank
  rcases blank with ((rfl | rfl) | rfl) | rfl <;> decide

private theorem isSpace_of_number {c : Char} (number : isNumberChar c = true) : isSpace c = false := by
  rw [← Bool.not_eq_true]
  intro blank
  simp [isNumberChar_of_isSpace blank] at number

/-- What follows a number does not continue it. -/
def Boundary (rest : List Char) : Prop := ∀ c, rest.head? = some c → isNumberChar c = false

private theorem boundary_blank {space : List Char} (blank : Blank space) {c : Char} {rest : List Char}
    (other : isNumberChar c = false) : Boundary (space ++ c::rest) := by
  intro d first
  cases space with
  | nil =>
    simp only [List.nil_append,List.head?_cons,Option.some.injEq] at first
    exact first ▸ other
  | cons e space =>
    simp only [List.cons_append,List.head?_cons,Option.some.injEq] at first
    exact isNumberChar_of_isSpace (blank d (by simp [first]))

private theorem takeWhile_number {token rest : List Char} (all : ∀ c ∈ token, isNumberChar c = true)
    (boundary : Boundary rest) : (token ++ rest).takeWhile isNumberChar = token ∧
      (token ++ rest).dropWhile isNumberChar = rest := by
  induction token with
  | nil =>
    cases rest with
    | nil => simp
    | cons c rest => simp [boundary c rfl]
  | cons c token ih =>
    have first := all c (by simp)
    have others := ih (fun d inside => all d (by simp [inside]))
    simp [first,others]

private theorem readNumber_token (token : Number) {rest : List Char} (boundary : Boundary rest) :
    readNumber (token.1.toList ++ rest) = some (.number token,rest) := by
  obtain ⟨text,valid⟩ := token
  obtain ⟨taken,left⟩ := takeWhile_number (isNumberChar_of_isNumber valid) boundary
  unfold readNumber
  simp only [taken,left,String.ofList_toList]
  rw [dif_pos valid]

private theorem token_of_readNumber {text rest : List Char} {value : Json}
    (read : readNumber text = some (value,rest)) :
    ∃ token : Number, value = .number token ∧ text = token.1.toList ++ rest := by
  simp only [readNumber] at read
  split at read
  · rename_i valid
    obtain ⟨rfl,rfl⟩ := Prod.mk.inj (Option.some.inj read)
    exact ⟨_,rfl,by rw [String.toList_ofList,List.takeWhile_append_dropWhile]⟩
  · contradiction

end Numbers

section Completeness

private theorem value_head {value : Json} {written : List Char} (meaning : Value value written) :
    ∃ c rest, written = c::rest ∧ isSpace c = false ∧ c ≠ ']' := by
  cases meaning with
  | number token =>
    obtain ⟨c,rest,same,number⟩ := number_head token.2
    exact ⟨c,rest,same,isSpace_of_number number,isNumberChar_ne number (by decide)⟩
  | null => exact ⟨_,_,rfl,by decide⟩
  | true => exact ⟨_,_,rfl,by decide⟩
  | false => exact ⟨_,_,rfl,by decide⟩
  | string => exact ⟨_,_,rfl,by decide⟩
  | emptyArray => exact ⟨_,_,rfl,by decide⟩
  | array => exact ⟨_,_,rfl,by decide⟩
  | emptyObject => exact ⟨_,_,rfl,by decide⟩
  | object => exact ⟨_,_,rfl,by decide⟩

private theorem Element.head {value : Json} {written : List Char} (element : Element value written) :
    ∃ space c rest, Blank space ∧ written = space ++ c::rest ∧ isSpace c = false ∧ c ≠ ']' := by
  cases element with
  | spaced value before written after blankBefore meaning blankAfter =>
    obtain ⟨c,rest,rfl,visible,started⟩ := value_head meaning
    exact ⟨before,c,rest ++ after,blankBefore,rfl,visible,started⟩

private theorem Elements.head {items : List Json} {written : List Char} (elements : Elements items written) :
    ∃ space c rest, Blank space ∧ written = space ++ c::rest ∧ isSpace c = false ∧ c ≠ ']' := by
  cases elements with
  | last item written element => exact element.head
  | more item items written others element elements =>
    obtain ⟨space,c,rest,blank,rfl,visible,started⟩ := element.head
    exact ⟨space,c,rest ++ ','::others,blank,by simp,visible,started⟩

private theorem Member.head {name : String} {value : Json} {written : List Char} (member : Member name value written) :
    ∃ space rest, Blank space ∧ written = space ++ '"'::rest := by
  cases member with
  | named _ _ before quoted after written blankBefore => exact ⟨before,_,blankBefore,rfl⟩

private theorem Members.head {entries : List (String × Json)} {written : List Char} (members : Members entries written) :
    ∃ space rest, Blank space ∧ written = space ++ '"'::rest := by
  cases members with
  | last name value written member => exact member.head
  | more name value entries written others member members =>
    obtain ⟨space,rest,blank,rfl⟩ := member.head
    exact ⟨space,rest ++ ','::others,blank,by simp⟩

def ReadsValues (fuel : ℕ) : Prop := ∀ (value : Json) (written rest : List Char), Value value written →
  written.length < fuel → Boundary rest → readValue fuel (written ++ rest) = some (value,rest)

def ReadsItems (fuel : ℕ) : Prop := ∀ (items : List Json) (written rest : List Char), Elements items written →
  written.length+1 < fuel → readItems fuel (written ++ ']'::rest) = some (items,rest)

def ReadsMembers (fuel : ℕ) : Prop := ∀ (entries : List (String × Json)) (written rest : List Char),
  Members entries written → written.length+1 < fuel →
    readMembers fuel (written ++ '\x7d'::rest) = some (entries,rest)

private theorem readValue_number (token : Number) {rest : List Char} (boundary : Boundary rest) (fuel : ℕ) :
    readValue (fuel+1) (token.1.toList ++ rest) = some (.number token,rest) := by
  obtain ⟨c,tail,same,number⟩ := number_head token.2
  have whole := readNumber_token token boundary
  rw [same,List.cons_append] at whole ⊢
  rw [readValue,skipSpace_cons (isSpace_of_number number)]
  simp only [isNumberChar_ne number (d := '"') (by decide),isNumberChar_ne number (d := '[') (by decide),
    isNumberChar_ne number (d := '\x7b') (by decide),isNumberChar_ne number (d := 'n') (by decide),
    isNumberChar_ne number (d := 't') (by decide),isNumberChar_ne number (d := 'f') (by decide),if_false]
  exact whole

private theorem readValue_array {fuel : ℕ} {items : List Json} {written rest : List Char}
    (elements : Elements items written) (read : readItems fuel (written ++ ']'::rest) = some (items,rest)) :
    readValue (fuel+1) ('['::(written ++ ']'::rest)) = some (.array items,rest) := by
  obtain ⟨space,c,tail,blank,same,visible,started⟩ := elements.head
  have skipped : skipSpace (written ++ ']'::rest) = c::(tail ++ ']'::rest) := by
    rw [same,List.append_assoc,List.cons_append,skipSpace_blank_cons blank visible]
  rw [← readItems_skipSpace,skipped] at read
  rw [readValue,skipSpace_cons (by decide)]
  simp [skipped,started,read]

private theorem readValue_object {fuel : ℕ} {entries : List (String × Json)} {written rest : List Char}
    (members : Members entries written) (read : readMembers fuel (written ++ '\x7d'::rest) = some (entries,rest)) :
    readValue (fuel+1) ('\x7b'::(written ++ '\x7d'::rest)) = some (.object entries,rest) := by
  obtain ⟨space,tail,blank,same⟩ := members.head
  have skipped : skipSpace (written ++ '\x7d'::rest) = '"'::(tail ++ '\x7d'::rest) := by
    rw [same,List.append_assoc,List.cons_append,skipSpace_blank_cons blank (by decide)]
  rw [← readMembers_skipSpace,skipped] at read
  rw [readValue,skipSpace_cons (by decide)]
  simp [skipped,read]

private theorem readsValues_succ {fuel : ℕ} (readsItems : ReadsItems fuel) (readsMembers : ReadsMembers fuel) :
    ReadsValues (fuel+1) := by
  intro value written rest meaning enough boundary
  cases meaning with
  | null => simp [readValue,skipSpace,isSpace,readWord]
  | true => simp [readValue,skipSpace,isSpace,readWord]
  | false => simp [readValue,skipSpace,isSpace,readWord]
  | number token => exact readValue_number token boundary fuel
  | string text written characters =>
    rw [List.cons_append,readValue,skipSpace_cons (by decide)]
    simp [readString_of_characters characters]
  | emptyArray space blank =>
    rw [List.cons_append,readValue,skipSpace_cons (by decide)]
    simp [skipSpace_blank_cons blank (show isSpace ']' = false by decide)]
  | array items written elements =>
    rw [List.cons_append,List.append_assoc]
    simp only [List.length_cons,List.length_append,List.length_nil] at enough
    exact readValue_array elements (readsItems items written rest elements (by omega))
  | emptyObject space blank =>
    rw [List.cons_append,readValue,skipSpace_cons (by decide)]
    simp [skipSpace_blank_cons blank (show isSpace '\x7d' = false by decide)]
  | object entries written members =>
    rw [List.cons_append,List.append_assoc]
    simp only [List.length_cons,List.length_append,List.length_nil] at enough
    exact readValue_object members (readsMembers entries written rest members (by omega))

/-- Up to the blanks behind it, which the caller skips. -/
private theorem readValue_element {fuel : ℕ} (readsValues : ReadsValues fuel) {value : Json} {written : List Char}
    (element : Element value written) (enough : written.length < fuel) {c : Char} (rest : List Char)
    (other : isNumberChar c = false) (visible : isSpace c = false) :
    ∃ left, readValue fuel (written ++ c::rest) = some (value,left) ∧ skipSpace left = c::rest := by
  cases element with
  | spaced value before written after blankBefore meaning blankAfter =>
    refine ⟨after ++ c::rest,?_,skipSpace_blank_cons blankAfter visible⟩
    simp only [List.length_append] at enough
    rw [List.append_assoc,List.append_assoc,readValue_blank fuel blankBefore]
    exact readsValues value written _ meaning (by omega) (boundary_blank blankAfter other)

private theorem readsItems_succ {fuel : ℕ} (readsValues : ReadsValues fuel) (readsItems : ReadsItems fuel) :
    ReadsItems (fuel+1) := by
  intro items written rest elements enough
  cases elements with
  | last item written element =>
    obtain ⟨left,first,skipped⟩ := @readValue_element fuel readsValues _ _ element (by omega) ']' rest
      (by decide) (by decide)
    rw [readItems,first]
    simp [skipped]
  | more item items written others element elements =>
    simp only [List.length_append,List.length_cons] at enough
    obtain ⟨left,first,skipped⟩ := @readValue_element fuel readsValues _ _ element (by omega) ','
      (others ++ ']'::rest) (by decide) (by decide)
    have remaining := readsItems items others rest elements (by omega)
    rw [List.append_assoc,List.cons_append,readItems,first]
    simp [skipped,remaining]

private theorem readsMembers_succ {fuel : ℕ} (readsValues : ReadsValues fuel) (readsMembers : ReadsMembers fuel) :
    ReadsMembers (fuel+1) := by
  have readMember {name : String} {value : Json} {written : List Char} (member : Member name value written)
      (enough : written.length < fuel) {c : Char} (rest : List Char) (other : isNumberChar c = false)
      (visible : isSpace c = false) : ∃ quoted after left, skipSpace (written ++ c::rest) = '"'::quoted ∧
        readString quoted = some (name.toList,after) ∧ ∃ inner, skipSpace after = ':'::inner ∧
        readValue fuel inner = some (value,left) ∧ skipSpace left = c::rest := by
    cases member with
    | named _ _ before quoted after written blankBefore characters blankAfter element =>
      simp only [List.length_append,List.length_cons] at enough
      obtain ⟨left,read,skipped⟩ := readValue_element readsValues element (by omega) rest other visible
      refine ⟨quoted ++ '"'::(after ++ ':'::(written ++ c::rest)),after ++ ':'::(written ++ c::rest),left,?_,
        readString_of_characters characters _,_,skipSpace_blank_cons blankAfter (by decide),read,skipped⟩
      rw [List.append_assoc,List.cons_append,skipSpace_blank_cons blankBefore (by decide)]
      simp
  intro entries written rest members enough
  cases members with
  | last name value written member =>
    obtain ⟨quoted,after,left,opened,named,inner,colon,read,skipped⟩ := @readMember _ _ _ member (by omega) '\x7d' rest
      (by decide) (by decide)
    rw [readMembers,opened]
    simp [named,colon,read,skipped]
  | more name value entries written others member members =>
    simp only [List.length_append,List.length_cons] at enough
    obtain ⟨quoted,after,left,opened,named,inner,colon,read,skipped⟩ := @readMember _ _ _ member (by omega) ','
      (others ++ '\x7d'::rest) (by decide) (by decide)
    have remaining := readsMembers entries others rest members (by omega)
    rw [List.append_assoc,List.cons_append,readMembers,opened]
    simp [named,colon,read,skipped,remaining]

private theorem reads_written (fuel : ℕ) : ReadsValues fuel ∧ ReadsItems fuel ∧ ReadsMembers fuel := by
  induction fuel with
  | zero =>
    refine ⟨?_,?_,?_⟩
    · intro value written rest meaning enough
      omega
    · intro items written rest elements enough
      omega
    · intro entries written rest members enough
      omega
  | succ fuel ih =>
    obtain ⟨values,items,members⟩ := ih
    exact ⟨readsValues_succ items members,readsItems_succ values items,readsMembers_succ values members⟩

/-- The reader finds the tree that a text stands for. -/
theorem parse_of_element {value : Json} {text : List Char} (element : Element value text) :
    parse text = some value := by
  cases element with
  | spaced value before written after blankBefore meaning blankAfter =>
    have boundary : Boundary after := by
      intro c first
      obtain ⟨rest,rfl⟩ := List.head?_eq_some_iff.mp first
      exact isNumberChar_of_isSpace (blankAfter c (by simp))
    have whole := (reads_written ((before ++ (written ++ after)).length+1)).1 value written after meaning
      (by simp only [List.length_append]; omega) boundary
    have finished : skipSpace after = [] := by
      rw [← List.append_nil after,skipSpace_blank blankAfter]
      rfl
    rw [← readValue_blank _ blankBefore] at whole
    simp only [parse,whole,finished]
    rfl

theorem Element.unique {first second : Json} {text : List Char} (element : Element first text)
    (other : Element second text) : first = second := by
  have same := parse_of_element element
  rw [parse_of_element other] at same
  exact (Option.some.inj same).symm

end Completeness

section Soundness

def FindsValues (fuel : ℕ) : Prop := ∀ (text : List Char) (value : Json) (rest : List Char),
  readValue fuel text = some (value,rest) →
    ∃ before written, Blank before ∧ Value value written ∧ text = before ++ (written ++ rest)

def FindsItems (fuel : ℕ) : Prop := ∀ (text : List Char) (items : List Json) (rest : List Char),
  readItems fuel text = some (items,rest) → ∃ written, Elements items written ∧ text = written ++ ']'::rest

def FindsMembers (fuel : ℕ) : Prop := ∀ (text : List Char) (entries : List (String × Json)) (rest : List Char),
  readMembers fuel text = some (entries,rest) → ∃ written, Members entries written ∧ text = written ++ '\x7d'::rest

private theorem word_of_readWord {word text rest : List Char} {value found : Json}
    (read : readWord word value text = some (found,rest)) : found = value ∧ text = word ++ rest := by
  unfold readWord at read
  split at read
  · rename_i begins
    obtain ⟨rest,rfl⟩ := List.isPrefixOf_iff_prefix.mp begins
    rw [List.drop_left] at read
    cases read
    exact ⟨rfl,rfl⟩
  · contradiction

theorem Element.blank {space : List Char} (blank : Blank space) {value : Json} {written : List Char}
    (element : Element value written) : Element value (space ++ written) := by
  cases element with
  | spaced value before written after blankBefore meaning blankAfter =>
    rw [← List.append_assoc]
    exact .spaced value _ written after (blank.append blankBefore) meaning blankAfter

theorem Elements.blank {space : List Char} (blank : Blank space) {items : List Json} {written : List Char}
    (elements : Elements items written) : Elements items (space ++ written) := by
  cases elements with
  | last item written element => exact .last item _ (element.blank blank)
  | more item items written others element elements =>
    rw [← List.append_assoc]
    exact .more item items _ others (element.blank blank) elements

theorem Member.blank {space : List Char} (blank : Blank space) {name : String} {value : Json} {written : List Char}
    (member : Member name value written) : Member name value (space ++ written) := by
  cases member with
  | named _ _ before quoted after written blankBefore characters blankAfter element =>
    rw [← List.append_assoc]
    exact .named name value _ quoted after written (blank.append blankBefore) characters blankAfter element

theorem Members.blank {space : List Char} (blank : Blank space) {entries : List (String × Json)}
    {written : List Char} (members : Members entries written) : Members entries (space ++ written) := by
  cases members with
  | last name value written member => exact .last name value _ (member.blank blank)
  | more name value entries written others member members =>
    rw [← List.append_assoc]
    exact .more name value entries _ others (member.blank blank) members

private theorem value_of_array {fuel : ℕ} (findsItems : FindsItems fuel) {text rest : List Char} {value : Json}
    (read : (match skipSpace text with
      | ']'::rest => some (.array [],rest)
      | rest => (readItems fuel rest).map (fun (items,rest) => (.array items,rest))) = some (value,rest)) :
    ∃ written, Value value written ∧ '['::text = written ++ rest := by
  obtain ⟨space,blank,same⟩ := skipSpace_split text
  split at read
  · rename_i shown
    cases read
    rw [same,shown]
    exact ⟨_,.emptyArray space blank,by simp⟩
  · obtain ⟨pair,items,made⟩ := Option.map_eq_some_iff.mp read
    cases made
    obtain ⟨written,elements,shown⟩ := findsItems _ _ _ items
    rw [same,shown]
    exact ⟨_,.array _ _ (elements.blank blank),by simp⟩

private theorem value_of_object {fuel : ℕ} (findsMembers : FindsMembers fuel) {text rest : List Char} {value : Json}
    (read : (match skipSpace text with
      | '\x7d'::rest => some (.object [],rest)
      | rest => (readMembers fuel rest).map (fun (members,rest) => (.object members,rest))) = some (value,rest)) :
    ∃ written, Value value written ∧ '\x7b'::text = written ++ rest := by
  obtain ⟨space,blank,same⟩ := skipSpace_split text
  split at read
  · rename_i shown
    cases read
    rw [same,shown]
    exact ⟨_,.emptyObject space blank,by simp⟩
  · obtain ⟨pair,entries,made⟩ := Option.map_eq_some_iff.mp read
    cases made
    obtain ⟨written,members,shown⟩ := findsMembers _ _ _ entries
    rw [same,shown]
    exact ⟨_,.object _ _ (members.blank blank),by simp⟩

private theorem findsValues_succ {fuel : ℕ} (findsItems : FindsItems fuel) (findsMembers : FindsMembers fuel) :
    FindsValues (fuel+1) := by
  intro text value rest read
  obtain ⟨space,blank,same⟩ := skipSpace_split text
  suffices found : ∃ written, Value value written ∧ skipSpace text = written ++ rest by
    obtain ⟨written,meaning,shown⟩ := found
    exact ⟨space,written,blank,meaning,same.trans (congrArg _ shown)⟩
  rw [readValue] at read
  split at read
  · contradiction
  · rename_i c left shown
    rw [shown]
    split_ifs at read with quoted array object null yes no
    · subst c
      obtain ⟨pair,found,made⟩ := Option.map_eq_some_iff.mp read
      cases made
      obtain ⟨written,characters,rfl⟩ := characters_of_readString found
      exact ⟨_,.string _ written (by rwa [String.toList_ofList]),by simp⟩
    · subst c
      exact value_of_array findsItems read
    · subst c
      exact value_of_object findsMembers read
    · obtain ⟨rfl,written⟩ := word_of_readWord read
      exact ⟨_,.null,written⟩
    · obtain ⟨rfl,written⟩ := word_of_readWord read
      exact ⟨_,.true,written⟩
    · obtain ⟨rfl,written⟩ := word_of_readWord read
      exact ⟨_,.false,written⟩
    · obtain ⟨token,rfl,written⟩ := token_of_readNumber read
      exact ⟨_,.number token,written⟩

private theorem element_of_readValue {fuel : ℕ} (findsValues : FindsValues fuel) {text left : List Char}
    {value : Json} (read : readValue fuel text = some (value,left)) :
    ∃ written, Element value written ∧ text = written ++ skipSpace left := by
  obtain ⟨before,written,blankBefore,meaning,rfl⟩ := findsValues text value left read
  obtain ⟨after,blankAfter,same⟩ := skipSpace_split left
  refine ⟨_,.spaced value before written after blankBefore meaning blankAfter,?_⟩
  rw [List.append_assoc,List.append_assoc,← same]

private theorem findsItems_succ {fuel : ℕ} (findsValues : FindsValues fuel) (findsItems : FindsItems fuel) :
    FindsItems (fuel+1) := by
  intro text items rest read
  rw [readItems] at read
  split at read
  · contradiction
  · rename_i item left first
    obtain ⟨written,element,rfl⟩ := element_of_readValue findsValues first
    split at read
    · rename_i others shown
      obtain ⟨pair,later,made⟩ := Option.map_eq_some_iff.mp read
      cases made
      obtain ⟨remaining,elements,rfl⟩ := findsItems _ _ _ later
      exact ⟨_,.more item _ written remaining element elements,by simp [shown]⟩
    · rename_i shown
      cases read
      exact ⟨written,.last item written element,by rw [shown]⟩
    · contradiction

private theorem findsMembers_succ {fuel : ℕ} (findsValues : FindsValues fuel) (findsMembers : FindsMembers fuel) :
    FindsMembers (fuel+1) := by
  intro text entries rest read
  obtain ⟨before,blankBefore,same⟩ := skipSpace_split text
  rw [readMembers] at read
  split at read
  · rename_i opened start
    split at read
    · contradiction
    · rename_i name behind named
      obtain ⟨quoted,characters,rfl⟩ := characters_of_readString named
      obtain ⟨after,blankAfter,behindName⟩ := skipSpace_split behind
      split at read
      · rename_i inner colon
        split at read
        · contradiction
        · rename_i value left found
          obtain ⟨written,element,rfl⟩ := element_of_readValue findsValues found
          have member : Member (String.ofList name) value
              (before ++ '"'::(quoted ++ '"'::(after ++ ':'::written))) :=
            .named _ value before quoted after written blankBefore (by rwa [String.toList_ofList]) blankAfter element
          rw [start,behindName,colon] at same
          split at read
          · rename_i others shown
            obtain ⟨pair,later,made⟩ := Option.map_eq_some_iff.mp read
            cases made
            obtain ⟨remaining,members,rfl⟩ := findsMembers _ _ _ later
            exact ⟨_,.more _ value _ _ remaining member members,by simp [same,shown]⟩
          · rename_i shown
            cases read
            exact ⟨_,.last _ value _ member,by simp [same,shown]⟩
          · contradiction
      · contradiction
  · contradiction

private theorem finds_written (fuel : ℕ) : FindsValues fuel ∧ FindsItems fuel ∧ FindsMembers fuel := by
  induction fuel with
  | zero =>
    refine ⟨?_,?_,?_⟩
    · intro text value rest read
      cases read
    · intro text items rest read
      cases read
    · intro text entries rest read
      cases read
  | succ fuel ih =>
    obtain ⟨values,items,members⟩ := ih
    exact ⟨findsValues_succ items members,findsItems_succ values items,findsMembers_succ values members⟩

/-- The reader reads nothing but texts of the grammar. -/
theorem element_of_parse {value : Json} {text : List Char} (parsed : parse text = some value) :
    Element value text := by
  unfold parse at parsed
  split at parsed
  · rename_i found rest read
    split at parsed
    · rename_i finished
      cases parsed
      obtain ⟨written,element,same⟩ := element_of_readValue (finds_written _).1 read
      rw [finished,List.append_nil] at same
      rwa [same]
    · contradiction
  · contradiction

theorem parse_eq_some {value : Json} {text : List Char} : parse text = some value ↔ Element value text :=
  ⟨element_of_parse,parse_of_element⟩

end Soundness

section Writing

private theorem elements_printItems {item : Json} {items : List Json}
    (each : ∀ other ∈ item::items, Element other other.print) : Elements (item::items) (printItems (item::items)) := by
  induction items generalizing item with
  | nil => exact .last item _ (each item (by simp))
  | cons next items ih =>
    have others := ih (fun other inside => each other (List.mem_cons_of_mem item inside))
    exact .more item (next::items) _ _ (each item (by simp)) others

private theorem members_printMembers {entry : String × Json} {entries : List (String × Json)}
    (each : ∀ other ∈ entry::entries, Element other.2 other.2.print) :
    Members (entry::entries) (printMembers (entry::entries)) := by
  have member (other : String × Json) (element : Element other.2 other.2.print) :
      Member other.1 other.2 (quote other.1 ++ ':'::other.2.print) := by
    have named := Member.named other.1 other.2 [] _ [] _ blank_nil (characters_escape other.1.toList) blank_nil element
    simpa [quote] using named
  induction entries generalizing entry with
  | nil => exact .last entry.1 entry.2 _ (member entry (each entry (by simp)))
  | cons next entries ih =>
    have others := ih (fun other inside => each other (List.mem_cons_of_mem entry inside))
    have whole := Members.more entry.1 entry.2 (next::entries) _ _ (member entry (each entry (by simp))) others
    simpa [printMembers] using whole

theorem Value.element {value : Json} {written : List Char} (meaning : Value value written) : Element value written := by
  have spaced := Element.spaced value [] written [] blank_nil meaning blank_nil
  simpa using spaced

theorem value_print (value : Json) : Value value value.print := by
  induction value using Json.induction with
  | null => exact .null
  | bool value =>
    cases value with
    | true => exact .true
    | false => exact .false
  | number token => exact .number token
  | string text => exact .string text _ (characters_escape text.toList)
  | array items each =>
    cases items with
    | nil => exact .emptyArray [] blank_nil
    | cons item items =>
      exact .array _ _ (elements_printItems (fun other inside => (each other inside).element))
  | object members each =>
    cases members with
    | nil => exact .emptyObject [] blank_nil
    | cons entry entries =>
      exact .object _ _ (members_printMembers (fun other inside => (each other inside).element))

end Writing

end Grammar

/-- White space before a value is not part of it. -/
theorem parse_spaced (value : Json) {space : List Char} (blank : ∀ c ∈ space, isSpace c = true) :
    parse (space ++ value.print) = some value :=
  Grammar.parse_of_element ((Grammar.value_print value).element.blank blank)

/-- The reader finds every tree in the text that was written for it. -/
theorem parse_print (value : Json) : parse value.print = some value :=
  Grammar.parse_of_element (Grammar.value_print value).element

end Library.Json
