import Mathlib.Data.List.TakeWhile
import PacketRefusal.Json.Token
import PacketRefusal.Proofs.Text.Digits

/-!
# Tokens that are written out

`Token.written` writes a token. Characters of a string are quoted where they have to be, and a
string that cannot be decoded is written as one half of a surrogate pair. A text spells some tokens
if these are written in it with any blanks around them (`Spells`); only behind a number something
has to stand that does not go on with it. The scanner cuts such a text into these tokens
(`scan?_of_spells`).

The scanner is followed from the smallest part to the largest: one character of a string
(`readPieces?_quotedChar`), the string, a number, and then a token with whatever stands behind it
(`readToken?_written`).
-/

set_option autoImplicit false
set_option relaxedAutoImplicit false

namespace PacketRefusal.Json

/-! ### Writing -/

/-- A character of a string. Control characters are given by their number. -/
def quotedChar (char : Char) : List Char :=
  if char = '"' ∨ char = '\\' then ['\\', char]
  else if char < ' ' then
    ['\\', 'u', '0', '0', Nat.digitChar (char.toNat / 16), Nat.digitChar (char.toNat % 16)]
  else [char]

/-- A number. The fraction of one that is not written as an integer is zero. -/
def Number.written (number : Number) : List Char :=
  (if number.negative then ['-'] else []) ++ Nat.toDigits 10 number.magnitude ++
    if number.integral then [] else ['.', '0']

def Token.written : Token → List Char
  | .openBrace => ['\x7b']
  | .closeBrace => ['\x7d']
  | .openBracket => ['[']
  | .closeBracket => [']']
  | .comma => [',']
  | .colon => [':']
  | .null => ['n', 'u', 'l', 'l']
  | .bool true => ['t', 'r', 'u', 'e']
  | .bool false => ['f', 'a', 'l', 's', 'e']
  | .number value => value.written
  | .text (some value) => '"' :: (value.toList.flatMap quotedChar ++ ['"'])
  | .text none => ['"', '\\', 'u', 'd', '8', '0', '0', '"']

def continuesNumber (char : Char) : Bool :=
  char.isDigit || char == '.' || char == 'e' || char == 'E'

/-- A number does not go on with whatever follows. -/
def Breaks (rest : List Char) : Prop :=
  ∀ char, rest.head? = some char → continuesNumber char = false

/-- A token ends before whatever follows. -/
def Ends (token : Token) (rest : List Char) : Prop :=
  ∀ number, token = .number number → Breaks rest

/-- A text that is made of written tokens and blanks. -/
inductive Spells : List Char → List Token → Prop
  | nil : Spells [] []
  | blank {char : Char} {rest : List Char} {tokens : List Token} (hblank : isBlank char = true)
      (hrest : Spells rest tokens) : Spells (char :: rest) tokens
  | token {rest : List Char} {tokens : List Token} (token : Token) (hends : Ends token rest)
      (hrest : Spells rest tokens) : Spells (token.written ++ rest) (token :: tokens)

/-! ### Strings -/

/-- The piece that a character is read back as. -/
def pieceOf (char : Char) : Piece := if char < ' ' then .unit char.toNat else .char char

theorem hexDigit?_digitChar {digit : Nat} (hdigit : digit < 16) :
    hexDigit? (Nat.digitChar digit) = some digit := by
  have hall : ∀ digit ∈ List.range 16, hexDigit? (Nat.digitChar digit) = some digit := by decide
  exact hall digit (List.mem_range.mpr hdigit)

theorem readPieces?_unit {first second third fourth : Char} {unit : Piece}
    (hunit : unit? first second third fourth = some unit) (rest : List Char) :
    readPieces? ('\\' :: 'u' :: first :: second :: third :: fourth :: rest) =
      (readPieces? rest).map fun (pieces, behind) ↦ (unit :: pieces, behind) := by
  have hread : readPieces? ('\\' :: 'u' :: first :: second :: third :: fourth :: rest) =
      (unit? first second third fourth).bind fun unit ↦
        (readPieces? rest).bind fun (pieces, behind) ↦ some (unit :: pieces, behind) := by
    rw [readPieces?]
    rfl
  rw [hread, hunit]
  cases readPieces? rest <;> rfl

theorem readPieces?_char {char : Char} (hquote : char ≠ '"') (hback : char ≠ '\\')
    (hvisible : ¬char < ' ') (rest : List Char) :
    readPieces? (char :: rest) =
      (readPieces? rest).map fun (pieces, behind) ↦ (.char char :: pieces, behind) := by
  have hread : readPieces? (char :: rest) = (readPieces? rest).bind fun (pieces, behind) ↦
      some (.char char :: pieces, behind) := by
    rw [readPieces?.eq_def]
    split
    · next hnil => exact nomatch hnil
    · next hcons => exact absurd (List.cons.inj hcons).1 hquote
    · next hcons => exact absurd (List.cons.inj hcons).1 hback
    · next hcons => exact absurd (List.cons.inj hcons).1 hback
    · next hcons =>
      obtain ⟨rfl, rfl⟩ := List.cons.inj hcons
      rw [if_neg (not_or.mpr ⟨hback, hvisible⟩)]
      rfl
  rw [hread]
  cases readPieces? rest <;> rfl

theorem unit?_digitChar {unit : Nat} (hunit : unit < 256) :
    unit? '0' '0' (Nat.digitChar (unit / 16)) (Nat.digitChar (unit % 16)) = some (.unit unit) := by
  rw [unit?, hexDigit?_digitChar (by omega), hexDigit?_digitChar (by omega)]
  change some (Piece.unit (4096 * 0 + 256 * 0 + 16 * (unit / 16) + unit % 16)) = _
  congr 2
  omega

theorem readPieces?_quotedChar (char : Char) (rest : List Char) :
    readPieces? (quotedChar char ++ rest) =
      (readPieces? rest).map fun (pieces, behind) ↦ (pieceOf char :: pieces, behind) := by
  unfold quotedChar
  split
  · next hquoted =>
    rcases hquoted with rfl | rfl
    all_goals
      rw [List.cons_append, List.singleton_append, readPieces?]
      · cases readPieces? rest <;> rfl
      · simp
  · next hplain =>
    rw [not_or] at hplain
    split
    · next hcontrol =>
      have hsmall : char.toNat < 32 := hcontrol
      rw [pieceOf, if_pos hcontrol]
      exact readPieces?_unit (unit?_digitChar (by omega)) rest
    · next hvisible =>
      rw [pieceOf, if_neg hvisible]
      exact readPieces?_char hplain.1 hplain.2 hvisible rest

theorem readPieces?_quoted (chars rest : List Char) :
    readPieces? (chars.flatMap quotedChar ++ '"' :: rest) = some (chars.map pieceOf, rest) := by
  induction chars with
  | nil => rfl
  | cons char chars ih =>
    rw [List.flatMap_cons, List.append_assoc, readPieces?_quotedChar, ih]
    rfl

theorem decodePieces?_unit {unit : Nat} (hsmall : unit < 0xD800) (rest : List Piece) :
    decodePieces? (.unit unit :: rest) = (decodePieces? rest).map (Char.ofNat unit :: ·) := by
  have hhigh : isHighSurrogate unit = false := by
    simp [isHighSurrogate]
    omega
  have hlow : isLowSurrogate unit = false := by
    simp [isLowSurrogate]
    omega
  cases rest with
  | nil => simp [decodePieces?, hhigh, hlow]
  | cons next rest => cases next <;> simp [decodePieces?, hhigh, hlow]

/-- Control characters are no halves of surrogate pairs. -/
theorem decodePieces?_map_pieceOf (chars : List Char) :
    decodePieces? (chars.map pieceOf) = some chars := by
  induction chars with
  | nil => rfl
  | cons char chars ih =>
    rw [List.map_cons, pieceOf]
    split
    · next hcontrol =>
      have hsmall : char.toNat < 32 := hcontrol
      rw [decodePieces?_unit (by omega), ih, Option.map_some, Char.ofNat_toNat]
    · rw [decodePieces?, ih]
      rfl

/-! ### Numbers -/

section Numbers

variable {rest : List Char}

theorem Breaks.cases (hrest : Breaks rest) : rest = [] ∨ ∃ char others, rest = char :: others ∧
    char.isDigit = false ∧ char ≠ '.' ∧ char ≠ 'e' ∧ char ≠ 'E' := by
  cases rest with
  | nil => exact .inl rfl
  | cons char others =>
    have hchar := hrest char rfl
    simp only [continuesNumber, Bool.or_eq_false_iff, beq_eq_false_iff_ne] at hchar
    exact .inr ⟨char, others, rfl, hchar.1.1.1, hchar.1.1.2, hchar.1.2, hchar.2⟩

theorem digits_append (number : Nat) {behind : List Char}
    (hbehind : ∀ char, behind.head? = some char → char.isDigit = false) :
    (Nat.toDigits 10 number ++ behind).takeWhile Char.isDigit = Nat.toDigits 10 number ∧
      (Nat.toDigits 10 number ++ behind).dropWhile Char.isDigit = behind := by
  have hdigits (char : Char) (hchar : char ∈ Nat.toDigits 10 number) : char.isDigit = true :=
    Nat.isDigit_of_mem_toDigits (by decide) (by decide) hchar
  rw [List.takeWhile_append_of_pos hdigits, List.dropWhile_append_of_pos hdigits]
  cases behind with
  | nil => simp
  | cons char others => simp [hbehind char rfl]

/-- The numeral of a number has no superfluous zero. -/
theorem length_of_head?_toDigits {number : Nat}
    (hhead : (Nat.toDigits 10 number).head? = some '0') : (Nat.toDigits 10 number).length = 1 := by
  have hzero : number = 0 := by
    induction number using Nat.strongRecOn with
    | ind number ih =>
      rw [toDigits_eq_concat (by decide)] at hhead
      split at hhead
      · next hsmall =>
        have hall : ∀ number ∈ List.range 10,
            ([] ++ [Nat.digitChar (number % 10)]).head? = some '0' → number = 0 := by decide
        exact hall number (List.mem_range.mpr hsmall) hhead
      · next hlarge =>
        rw [List.head?_append_of_ne_nil _ Nat.toDigits_ne_nil] at hhead
        have hzero := ih (number / 10) (by omega) hhead
        omega
  rw [hzero]
  rfl

theorem dropFraction?_of_breaks (hrest : Breaks rest) : dropFraction? rest = some rest := by
  obtain rfl | ⟨char, others, rfl, -, hpoint, -⟩ := hrest.cases
  · rfl
  · rw [dropFraction?]
    rintro others' hcons
    exact hpoint (List.cons.inj hcons).1

theorem dropExponent?_of_breaks (hrest : Breaks rest) : dropExponent? rest = some rest := by
  obtain rfl | ⟨char, others, rfl, -, -, hsmall, hlarge⟩ := hrest.cases
  · rfl
  · unfold dropExponent?
    exact if_neg (not_or.mpr ⟨hsmall, hlarge⟩)

theorem readMagnitude?_digits (negative : Bool) (magnitude : Nat) {behind : List Char}
    (hbehind : ∀ char, behind.head? = some char → char.isDigit = false) :
    readMagnitude? negative (Nat.toDigits 10 magnitude ++ behind) =
      (dropFraction? behind).bind fun afterFraction ↦ (dropExponent? afterFraction).bind fun rest ↦
        some (⟨negative, magnitude, rest.length == behind.length⟩, rest) := by
  obtain ⟨htake, hdrop⟩ := digits_append magnitude hbehind
  have hvalue : decimalValue (Nat.toDigits 10 magnitude) = magnitude :=
    Nat.ofDigitChars_ten_toDigits
  have hnumeral : ¬((Nat.toDigits 10 magnitude).isEmpty ||
      ((Nat.toDigits 10 magnitude).head? == some '0' &&
        (Nat.toDigits 10 magnitude).length != 1)) = true := by
    have hne : (Nat.toDigits 10 magnitude).isEmpty = false :=
      List.isEmpty_eq_false_iff.mpr Nat.toDigits_ne_nil
    rw [hne, Bool.false_or, Bool.and_eq_true, beq_iff_eq, bne_iff_ne]
    rintro ⟨hhead, hlength⟩
    exact hlength (length_of_head?_toDigits hhead)
  unfold readMagnitude?
  rw [htake, hdrop, if_neg hnumeral, hvalue]
  rfl

theorem readMagnitude?_written (number : Number) (hrest : Breaks rest) :
    readMagnitude? number.negative (Nat.toDigits 10 number.magnitude ++
      ((if number.integral then [] else ['.', '0']) ++ rest)) = some (number, rest) := by
  have hdigit (char : Char) (hchar : rest.head? = some char) : char.isDigit = false := by
    have hcontinues := hrest char hchar
    simp only [continuesNumber, Bool.or_eq_false_iff] at hcontinues
    exact hcontinues.1.1.1
  obtain ⟨negative, magnitude, integral⟩ := number
  cases integral with
  | true =>
    rw [if_pos rfl, List.nil_append, readMagnitude?_digits _ _ hdigit,
      dropFraction?_of_breaks hrest, Option.bind_some, dropExponent?_of_breaks hrest,
      Option.bind_some, beq_self_eq_true]
  | false =>
    have hdropped : rest.dropWhile Char.isDigit = rest := by
      cases rest with
      | nil => rfl
      | cons char others => exact List.dropWhile_cons_of_neg (by simp [hdigit char rfl])
    have hfraction : dropFraction? ('.' :: '0' :: rest) = some rest := by
      rw [dropFraction?, dropDigits?, if_pos (by decide), hdropped]
    have hbehind (char : Char) (hchar : ('.' :: '0' :: rest).head? = some char) :
        char.isDigit = false := Option.some.inj hchar ▸ rfl
    rw [if_neg Bool.false_ne_true, List.cons_append, List.cons_append, List.nil_append,
      readMagnitude?_digits _ _ hbehind, hfraction, Option.bind_some, dropExponent?_of_breaks hrest,
      Option.bind_some]
    have hlonger : (rest.length == ('.' :: '0' :: rest).length) = false := by
      rw [beq_eq_false_iff_ne, List.length_cons, List.length_cons]
      omega
    rw [hlonger]

end Numbers

/-! ### Tokens -/

theorem readToken?_of_isDigit {char : Char} (hdigit : char.isDigit = true) (rest : List Char) :
    readToken? (char :: rest) = (readMagnitude? false (char :: rest)).bind fun (number, rest) ↦
      some (.number number, rest) := by
  unfold readToken?
  -- No other token starts with a digit.
  split
  case h_12 => rfl
  all_goals
    next hcons =>
    rw [(List.cons.inj hcons).1] at hdigit
    exact absurd hdigit (by decide)

theorem exists_cons_toDigits (number : Nat) :
    ∃ char others, Nat.toDigits 10 number = char :: others ∧ char.isDigit = true := by
  obtain ⟨char, others, hdigits⟩ := List.exists_cons_of_ne_nil (Nat.toDigits_ne_nil (b := 10)
    (n := number))
  have hmem : char ∈ Nat.toDigits 10 number := hdigits ▸ List.mem_cons_self
  exact ⟨char, others, hdigits, Nat.isDigit_of_mem_toDigits (by decide) (Nat.le_refl 10) hmem⟩

theorem readToken?_number (number : Number) {rest : List Char} (hrest : Breaks rest) :
    readToken? (number.written ++ rest) = some (.number number, rest) := by
  have hread := readMagnitude?_written number hrest
  rw [Number.written, List.append_assoc, List.append_assoc]
  split
  · next hnegative =>
    rw [hnegative] at hread
    rw [List.singleton_append, readToken?, hread]
    rfl
  · next hpositive =>
    rw [Bool.not_eq_true] at hpositive
    obtain ⟨char, others, hdigits, hdigit⟩ := exists_cons_toDigits number.magnitude
    rw [hpositive, hdigits, List.cons_append] at hread
    rw [List.nil_append, hdigits, List.cons_append, readToken?_of_isDigit hdigit, hread]
    rfl

theorem readToken?_quote (chars : List Char) :
    readToken? ('"' :: chars) = (readPieces? chars).bind fun read ↦
      some (.text ((decodePieces? read.1).map String.ofList), read.2) :=
  rfl

theorem readToken?_text (value : Option String) (rest : List Char) :
    readToken? ((Token.text value).written ++ rest) = some (.text value, rest) := by
  cases value with
  | none =>
    have hpieces : readPieces? ('\\' :: 'u' :: 'd' :: '8' :: '0' :: '0' :: '"' :: rest) =
        some ([.unit 0xD800], rest) := by
      rw [readPieces?, readPieces?]
      rfl
    change readToken? ('"' :: '\\' :: 'u' :: 'd' :: '8' :: '0' :: '0' :: '"' :: rest) = _
    rw [readToken?_quote, hpieces]
    rfl
  | some value =>
    have hpieces := readPieces?_quoted value.toList rest
    rw [Token.written, List.cons_append, List.append_assoc, List.singleton_append,
      readToken?_quote, hpieces, Option.bind_some, decodePieces?_map_pieceOf, Option.map_some,
      String.ofList_toList]

theorem readToken?_written (token : Token) {rest : List Char} (hends : Ends token rest) :
    readToken? (token.written ++ rest) = some (token, rest) := by
  cases token with
  | number number => exact readToken?_number number (hends number rfl)
  | text value => exact readToken?_text value rest
  | bool value => cases value <;> rfl
  | _ => rfl

theorem exists_cons_written (token : Token) :
    ∃ char others, token.written = char :: others ∧ isBlank char = false := by
  have hdigit {char : Char} (hdigit : char.isDigit = true) : isBlank char = false := by
    rw [isBlank, Bool.or_eq_false_iff, Bool.or_eq_false_iff, Bool.or_eq_false_iff]
    simp only [beq_eq_false_iff_ne]
    refine ⟨⟨⟨?_, ?_⟩, ?_⟩, ?_⟩ <;> rintro rfl <;> exact absurd hdigit (by decide)
  cases token with
  | number number =>
    obtain ⟨char, others, hdigits, hfirst⟩ := exists_cons_toDigits number.magnitude
    rw [Token.written, Number.written, hdigits]
    split
    · exact ⟨'-', _, rfl, rfl⟩
    · exact ⟨char, _, rfl, hdigit hfirst⟩
  | text value => cases value <;> exact ⟨_, _, rfl, rfl⟩
  | bool value => cases value <;> exact ⟨_, _, rfl, rfl⟩
  | _ => exact ⟨_, _, rfl, rfl⟩

/-- A text is cut into the tokens that it spells. -/
theorem scan?_of_spells {text : List Char} {tokens : List Token} (hspells : Spells text tokens) :
    scan? text = some tokens := by
  induction hspells with
  | nil => rw [scan?]
  | blank hblank _ ih => rw [scan?, if_pos hblank, ih]
  | @token rest tokens token hends _ ih =>
    obtain ⟨char, others, hwritten, hblank⟩ := exists_cons_written token
    have hread := readToken?_written token hends
    have hshorter : rest.length ≤ (others ++ rest).length := by
      rw [List.length_append]
      exact Nat.le_add_left _ _
    rw [hwritten, List.cons_append] at hread ⊢
    rw [scan?, if_neg (Bool.eq_false_iff.mp hblank), hread]
    dsimp only
    rw [if_pos hshorter, ih, Option.map_some]

/-- Tokens with a blank behind each of them. -/
theorem spells_spaced (tokens : List Token) :
    Spells (tokens.flatMap (·.written ++ [' '])) tokens := by
  induction tokens with
  | nil => exact .nil
  | cons token tokens ih =>
    rw [List.flatMap_cons, List.append_assoc, List.singleton_append]
    refine .token token (fun _ _ char hchar ↦ ?_) (.blank rfl ih)
    exact Option.some.inj hchar ▸ rfl

end PacketRefusal.Json
