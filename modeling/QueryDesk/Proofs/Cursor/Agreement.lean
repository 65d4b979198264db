import QueryDesk.Proofs.Cursor.Next
import QueryDesk.Proofs.Tokens.Tiling

/-!
# The cursor finds the tokens

At an offset between characters the cursor reads the token that stands there. It moves over the
octets of whole characters only: what stops it is an octet of ASCII, and such an octet is a
character of its own.

* `cut_eq_ok_iff`: a text can be cut at the offsets between its characters and nowhere else.
* `next_eq`: from there the cursor reads the first token of the text ahead, and no cut fails.
-/

set_option autoImplicit false

namespace QueryDesk

namespace Text

theorem cut_zero (t : Text) : cut t 0 = .ok ([], t) := by
  cases t <;> rfl

theorem cut_append (front rest : Text) :
    cut (front ++ rest) (byteSize front) = .ok (front, rest) := by
  induction front with
  | nil => exact cut_zero rest
  | cons c cs ih =>
    have := Char.utf8Size_pos c
    obtain ⟨n, size⟩ : ∃ n, c.utf8Size + byteSize cs = n + 1 :=
      ⟨c.utf8Size + byteSize cs - 1, by omega⟩
    have fits : c.utf8Size ≤ n + 1 := by omega
    have left : n + 1 - c.utf8Size = byteSize cs := by omega
    rw [List.cons_append, byteSize, size, cut, if_pos fits, left, ih]
    rfl

/-- A text can be cut at the offsets between its characters and nowhere else. -/
theorem cut_eq_ok_iff {t : Text} {n : Nat} {parts : Text × Text} :
    cut t n = .ok parts ↔ t = parts.1 ++ parts.2 ∧ byteSize parts.1 = n := by
  constructor
  · intro done
    fun_induction cut t n generalizing parts with
    | case1 t => cases done; exact ⟨rfl, rfl⟩
    | case2 n => cases done
    | case3 c cs n fits ih =>
      cases tail : cut cs (n + 1 - c.utf8Size) with
      | error e => rw [tail] at done; cases done
      | ok rest =>
        rw [tail] at done
        cases done
        obtain ⟨shape, size⟩ := ih tail
        refine ⟨congrArg (c :: ·) shape, ?_⟩
        change c.utf8Size + byteSize rest.1 = n + 1
        omega
    | case4 => cases done
  · obtain ⟨front, rest⟩ := parts
    rintro ⟨rfl, rfl⟩
    exact cut_append front rest

theorem textFrom_append (front rest : Text) :
    textFrom (front ++ rest) (byteSize front) = .ok rest := by
  rw [textFrom, cut_append]
  rfl

theorem textBetween_append (front middle rest : Text) :
    textBetween (front ++ (middle ++ rest)) (byteSize front) (byteSize (front ++ middle)) =
      .ok middle := by
  rw [textBetween, ← List.append_assoc, cut_append]
  exact textFrom_append front middle

end Text

namespace Sql.Cursor

open Text

theorem widthThrough_pass {stop : Char} {front : Bytes}
    (pass : ∀ b ∈ front, byteChar b ≠ stop) (rest : Bytes) :
    widthThrough stop (front ++ rest) = front.length + widthThrough stop rest := by
  induction front with
  | nil => simp
  | cons b bs ih =>
    have head := pass b (List.mem_cons_self ..)
    have tail := ih fun d member => pass d (List.mem_cons_of_mem b member)
    rw [List.cons_append, widthThrough, if_neg head, tail, List.length_cons]
    omega

theorem octets_ne {stop : Char} (ascii : stop.toNat < 128) {c : Char} (other : c ≠ stop) :
    ∀ b ∈ String.utf8EncodeChar c, byteChar b ≠ stop := by
  intro b member same
  have outside : (c == stop) = false := beq_eq_false_iff_ne.2 other
  have := (ascii_beq ascii).octets outside b member
  rw [same] at this
  simp at this

theorem widthThrough_encode {stop : Char} (ascii : stop.toNat < 128) (t : Text) :
    widthThrough stop (encode t) = byteSize (through (· == stop) t).1 := by
  induction t with
  | nil => rfl
  | cons c cs ih =>
    by_cases same : c = stop
    · subst same
      obtain ⟨b, single, back⟩ := encodeChar_ascii ascii
      simp [encode_cons, single, widthThrough, back, through, byteSize, utf8Size_ascii ascii]
    · rw [encode_cons, widthThrough_pass (octets_ne ascii same), ih,
        String.length_utf8EncodeChar]
      simp [through, same, extend, byteSize]

theorem head?_encode_eq {d : Char} (ascii : d.toNat < 128) (t : Text) :
    (encode t).head?.map byteChar = some d ↔ t.head? = some d := by
  cases t with
  | nil => exact Iff.rfl
  | cons c cs =>
    obtain ⟨b, bs, shape⟩ := encodeChar_cons c
    rw [encode_cons, shape]
    change some (byteChar b) = some d ↔ some c = some d
    rw [Option.some_inj, Option.some_inj]
    by_cases same : c = d
    · subst same
      obtain ⟨b', single, back⟩ := encodeChar_ascii ascii
      rw [single] at shape
      cases shape
      exact ⟨fun _ => rfl, fun _ => back⟩
    · have other := octets_ne ascii same b (shape ▸ List.mem_cons_self ..)
      exact ⟨fun first => absurd first other, fun first => absurd first same⟩

theorem widthThroughClose_pass {front : Bytes} (pass : ∀ b ∈ front, byteChar b ≠ '*')
    (rest : Bytes) : widthThroughClose (front ++ rest) = front.length + widthThroughClose rest := by
  induction front with
  | nil => simp
  | cons b bs ih =>
    have head := pass b (List.mem_cons_self ..)
    have tail := ih fun d member => pass d (List.mem_cons_of_mem b member)
    rw [List.cons_append, widthThroughClose, if_neg fun closes => head closes.1, tail,
      List.length_cons]
    omega

theorem widthThroughClose_encode (t : Text) :
    widthThroughClose (encode t) = byteSize (Token.throughClose t).1 := by
  fun_induction Token.throughClose t with
  | case1 cs =>
    have closes : encode ('*' :: '/' :: cs) = 42 :: 47 :: encode cs := rfl
    rw [closes, widthThroughClose]
    rfl
  | case2 c cs open_ ih =>
    rw [encode_cons]
    change _ = c.utf8Size + byteSize (Token.throughClose cs).1
    by_cases star : c = '*'
    · subst star
      have next : ¬ (encode cs).head?.map byteChar = some '/' := by
        rw [head?_encode_eq (by decide)]
        intro slash
        cases cs with
        | nil => cases slash
        | cons d ds => exact open_ ds rfl (by cases slash; rfl)
      have octet : String.utf8EncodeChar '*' = [42] := rfl
      rw [octet, List.singleton_append, widthThroughClose, if_neg fun closes => next closes.2, ih]
      rfl
    · rw [widthThroughClose_pass (octets_ne (by decide) star), String.length_utf8EncodeChar, ih]
  | case3 => rfl

theorem widthThroughQuote_other {quote : Char} {b : UInt8} (other : byteChar b ≠ quote)
    (bs : Bytes) : widthThroughQuote quote (b :: bs) = 1 + widthThroughQuote quote bs := by
  cases bs with
  | nil => rfl
  | cons d ds => rw [widthThroughQuote, if_neg other]

theorem widthThroughQuote_pass {quote : Char} {front : Bytes}
    (pass : ∀ b ∈ front, byteChar b ≠ quote) (rest : Bytes) :
    widthThroughQuote quote (front ++ rest) = front.length + widthThroughQuote quote rest := by
  induction front with
  | nil => simp
  | cons b bs ih =>
    have tail := ih fun d member => pass d (List.mem_cons_of_mem b member)
    rw [List.cons_append, widthThroughQuote_other (pass b (List.mem_cons_self ..)), tail,
      List.length_cons]
    omega

theorem widthThroughQuote_encode {quote : Char} (ascii : quote.toNat < 128) (t : Text) :
    widthThroughQuote quote (encode t) = byteSize (Token.throughQuote quote t).1 := by
  obtain ⟨b, single, back⟩ := encodeChar_ascii ascii
  have size := utf8Size_ascii ascii
  fun_induction Token.throughQuote quote t with
  | case1 => rfl
  | case2 c =>
    rw [encode_cons, encode_nil, List.append_nil]
    by_cases same : c = quote
    · rw [same, single, widthThroughQuote, byteSize, size, byteSize]
    · rw [← List.append_nil (String.utf8EncodeChar c),
        widthThroughQuote_pass (octets_ne ascii same), String.length_utf8EncodeChar]
      rfl
  | case3 cs ih =>
    rw [encode_cons, encode_cons, single, List.singleton_append, List.singleton_append,
      widthThroughQuote, if_pos back, if_pos back, ih]
    change _ = quote.utf8Size + (quote.utf8Size + byteSize (Token.throughQuote quote cs).1)
    omega
  | case4 d cs other =>
    obtain ⟨b', bs, shape⟩ := encodeChar_cons d
    have next := octets_ne ascii other b' (shape ▸ List.mem_cons_self ..)
    rw [encode_cons, single, List.singleton_append, encode_cons, shape, List.cons_append,
      widthThroughQuote, if_pos back, if_neg next]
    change 1 = quote.utf8Size + 0
    omega
  | case5 c d cs other ih =>
    rw [encode_cons, widthThroughQuote_pass (octets_ne ascii other), String.length_utf8EncodeChar,
      ih]
    rfl

theorem byteSize_capitals {word : Text} (capitals : ∀ c ∈ upper word, c.isUpper = true) :
    byteSize word = byteSize (upper word) := by
  induction word with
  | nil => rfl
  | cons c cs ih =>
    have tail := ih fun d member => capitals d (List.mem_cons_of_mem _ member)
    have capital := capitals c.toUpper (List.mem_cons_self ..)
    have letter := isAlpha_of_isUpper_toUpper capital
    have size : c.utf8Size = 1 := utf8Size_ascii (by rw [isAlpha_iff] at letter; omega)
    have size' : c.toUpper.utf8Size = 1 := utf8Size_ascii (by rw [isUpper_iff] at capital; omega)
    change c.utf8Size + byteSize cs = c.toUpper.utf8Size + byteSize (upper cs)
    rw [size, size', tail]

theorem ascii_capital {w : Char} (capital : w.isUpper = true) :
    Ascii (fun c => c.toUpper == w) := by
  intro c same
  rw [beq_iff_eq] at same
  have letter := isAlpha_of_isUpper_toUpper (same ▸ capital)
  rw [isAlpha_iff] at letter
  omega

theorem spelled_encode {word : Text} (capitals : ∀ c ∈ word, c.isUpper = true) (t : Text) :
    spelled word (encode t) = (Token.takeWord? word t).isSome := by
  induction word generalizing t with
  | nil => rfl
  | cons w ws ih =>
    have tail := ih fun c member => capitals c (List.mem_cons_of_mem w member)
    have ascii := ascii_capital (capitals w (List.mem_cons_self ..))
    cases t with
    | nil => rfl
    | cons c cs =>
      cases same : c.toUpper == w with
      | true =>
        obtain ⟨b, single, back⟩ := ascii.octet same
        rw [encode_cons, single, List.singleton_append, spelled, back, same, tail,
          Token.takeWord?, if_pos (beq_iff_eq.1 same), Option.isSome_map, Bool.true_and]
      | false =>
        obtain ⟨b, bs, shape⟩ := encodeChar_cons c
        have first : ((byteChar b).toUpper == w) = false :=
          ascii.octets same b (shape ▸ List.mem_cons_self ..)
        rw [encode_cons, shape, List.cons_append, spelled, first, Bool.false_and,
          Token.takeWord?, if_neg (beq_eq_false_iff_ne.1 same)]
        rfl

variable {before ahead : Text}

theorem wordEnd?_eq {word : Text} (capitals : ∀ c ∈ word, c.isUpper = true) :
    wordEnd? (encode (before ++ ahead)) (byteSize before) word =
      (Token.takeWord? word ahead).map fun r => byteSize (before ++ r.1) := by
  rw [wordEnd?, drop_encode, spelled_encode capitals]
  cases found : Token.takeWord? word ahead with
  | none => rfl
  | some r =>
    obtain ⟨rfl, -⟩ := Token.takeWord?_eq_some_iff.1 found
    have size := byteSize_capitals capitals
    rw [Option.isSome_some, if_pos rfl, Option.map_some, byteSize_append, size]

theorem gapEnd_eq : gapEnd (before ++ ahead) (byteSize before) =
    .ok (if ahead.takeWhile isBlank = [] then none
      else some (byteSize (before ++ ahead.takeWhile isBlank))) := by
  rw [gapEnd, textFrom_append, byteSize_append]
  change Except.ok (if byteSize (ahead.takeWhile isBlank) = 0 then none
    else some (byteSize before + byteSize (ahead.takeWhile isBlank))) = _
  cases gap : ahead.takeWhile isBlank with
  | nil => rfl
  | cons c cs =>
    have size := byteSize_pos (List.cons_ne_nil c cs)
    rw [if_neg (by omega), if_neg (List.cons_ne_nil c cs)]

theorem wordsEnd_eq {p : Phrase} (capitals : ∀ w ∈ p, ∀ c ∈ w, c.isUpper = true) :
    wordsEnd (before ++ ahead) p (byteSize before) =
      .ok ((Token.takeWords? p ahead).map fun r => byteSize (before ++ r.1)) := by
  fun_induction Token.takeWords? p ahead generalizing before with
  | case1 t => simp [wordsEnd]
  | case2 w t => exact congrArg _ (wordEnd?_eq (capitals w (List.mem_cons_self ..)))
  | case3 w ws t more ih =>
    have tail : ∀ v ∈ ws, ∀ c ∈ v, c.isUpper = true := fun v member =>
      capitals v (List.mem_cons_of_mem w member)
    rw [wordsEnd, wordEnd?_eq (capitals w (List.mem_cons_self ..))]
    · cases found : Token.takeWord? w t with
      | none => rfl
      | some r =>
        obtain ⟨rfl, rfl⟩ := Token.takeWord?_eq_some_iff.1 found
        simp only [Option.map_some, Option.bind_some]
        rw [← List.append_assoc, gapEnd_eq]
        by_cases none : r.2.takeWhile isBlank = []
        · simp only [if_pos none, List.isEmpty_iff]
          rfl
        · simp only [if_neg none, List.isEmpty_iff]
          have rest := @ih r (before ++ r.1 ++ r.2.takeWhile isBlank) tail
          rw [List.append_assoc _ (r.2.takeWhile isBlank), List.takeWhile_append_dropWhile] at rest
          change wordsEnd _ ws _ = _
          rw [rest]
          simp [extend, Function.comp_def]
    · exact more

theorem getElem?_encode : (encode (before ++ ahead))[byteSize before]? = (encode ahead).head? := by
  rw [← drop_encode before ahead, List.head?_drop]

theorem wordAt_eq : wordAt (encode (before ++ ahead)) (byteSize before) = startsWithWord ahead := by
  rw [wordAt, getElem?_encode]
  exact ascii_isWordChar.head?_encode ahead

theorem phraseEnd_eq {p : Phrase} (formed : p.WellFormed) :
    phraseEnd (before ++ ahead) (byteSize before) p =
      .ok ((Token.takePhrase? p ahead).map fun r => byteSize (before ++ r.1)) := by
  rw [phraseEnd, wordsEnd_eq fun w member => (formed.2 w member).2, Token.takePhrase?]
  cases found : Token.takeWords? p ahead with
  | none => rfl
  | some r =>
    have spelled := Token.spells_of_takeWords? formed.1 found
    have shape := (Token.takeWords?_append found).symm
    obtain ⟨c, cs, full, -⟩ := spelled.head formed
    subst shape
    change Except.ok (if wordAt _ _ = true then none else some (byteSize (before ++ r.1))) = _
    rw [← List.append_assoc, wordAt_eq]
    cases follows : startsWithWord r.2 with
    | true => simp [Option.filter, follows]
    | false => simp [Option.filter, follows, full]

theorem firstPhraseEnd_eq {phrases : List Phrase} (formed : ∀ p ∈ phrases, p.WellFormed) :
    firstPhraseEnd (before ++ ahead) (byteSize before) phrases =
      .ok ((phrases.findSome? fun p => Token.takePhrase? p ahead).map
        fun r => byteSize (before ++ r.1)) := by
  induction phrases with
  | nil => rfl
  | cons p ps ih =>
    have tail := ih fun q member => formed q (List.mem_cons_of_mem p member)
    rw [firstPhraseEnd, phraseEnd_eq (formed p (List.mem_cons_self ..)), List.findSome?_cons]
    cases Token.takePhrase? p ahead with
    | none => exact tail
    | some r => rfl

theorem digits_encode (t : Text) :
    ((encode t).takeWhile isDigitByte).length = byteSize (t.takeWhile Char.isDigit) := by
  rw [← length_encode]
  exact congrArg List.length (ascii_isDigit.takeWhile_encode t)

theorem octetsFrom_append :
    octetsFrom (encode (before ++ ahead)) (byteSize before) = .ok (encode ahead) := by
  have inside : byteSize before ≤ (encode (before ++ ahead)).length := by
    rw [length_encode, byteSize_append]
    exact Nat.le_add_right ..
  rw [octetsFrom, if_pos inside, drop_encode]

theorem fractionWidth_eq : fractionWidth (encode (before ++ ahead)) (byteSize before) =
    .ok (byteSize (Token.takeFraction ahead).1) := by
  have ascii : '.'.toNat < 128 := by decide
  simp only [fractionWidth, getElem?_encode, head?_encode_eq ascii]
  by_cases first : ahead.head? = some '.'
  · obtain ⟨cs, rfl⟩ := List.head?_eq_some_iff.1 first
    have past : octetsFrom (encode (before ++ '.' :: cs)) (byteSize before + 1) =
        .ok (encode cs) := by
      have point : byteSize (before ++ ['.']) = byteSize before + 1 := byteSize_append before ['.']
      rw [← point, List.append_cons before '.' cs, octetsFrom_append]
    rw [if_pos first, past]
    change Except.ok (if 0 < ((encode cs).takeWhile isDigitByte).length then
      1 + ((encode cs).takeWhile isDigitByte).length else 0) = _
    rw [digits_encode, Token.takeFraction]
    cases digits : cs.takeWhile Char.isDigit with
    | nil => rfl
    | cons d ds =>
      have size := byteSize_pos (List.cons_ne_nil d ds)
      rw [if_pos size]
      rfl
  · have bare : Token.takeFraction ahead = ([], ahead) :=
      Token.takeFraction_none fun d rest shape => absurd (congrArg List.head? shape) first
    rw [if_neg first, bare]
    rfl

theorem numberEnd_eq : numberEnd (encode (before ++ ahead)) (byteSize before) =
    .ok (if startsWithWord (Token.takeNumber ahead).2 then none
      else some (byteSize (before ++ (Token.takeNumber ahead).1))) := by
  obtain ⟨whole, past, digits, rest, shape⟩ : ∃ whole past,
      ahead.takeWhile Char.isDigit = whole ∧ ahead.dropWhile Char.isDigit = past ∧
        ahead = whole ++ past := ⟨_, _, rfl, rfl, List.takeWhile_append_dropWhile.symm⟩
  have number : Token.takeNumber ahead = (whole ++ (Token.takeFraction past).1,
      (Token.takeFraction past).2) := by rw [Token.takeNumber, digits, rest]; rfl
  have width : fractionWidth (encode (before ++ ahead)) (byteSize (before ++ whole)) =
      .ok (byteSize (Token.takeFraction past).1) := by
    rw [shape, ← List.append_assoc, fractionWidth_eq]
  have ends : wordAt (encode (before ++ ahead))
      (byteSize (before ++ whole) + byteSize (Token.takeFraction past).1) =
        startsWithWord (Token.takeFraction past).2 := by
    have split : before ++ ahead =
        before ++ whole ++ (Token.takeFraction past).1 ++ (Token.takeFraction past).2 := by
      rw [List.append_assoc (before ++ whole), Token.takeFraction_append, shape, List.append_assoc]
    rw [← byteSize_append, split, wordAt_eq]
  rw [numberEnd, octetsFrom_append]
  change (do
    let width ← fractionWidth (encode (before ++ ahead))
      (byteSize before + ((encode ahead).takeWhile isDigitByte).length)
    return if wordAt (encode (before ++ ahead))
        (byteSize before + ((encode ahead).takeWhile isDigitByte).length + width) then none
      else some (byteSize before + ((encode ahead).takeWhile isDigitByte).length + width)) = _
  rw [digits_encode, digits, ← byteSize_append, width, number]
  change Except.ok (if wordAt _ _ = true then none else some (byteSize (before ++ whole) + _)) = _
  rw [ends, ← byteSize_append, List.append_assoc]

theorem precededByWord_eq :
    precededByWord (encode (before ++ ahead)) (byteSize before) = .ok (endsWithWord before) := by
  cases full : encode before with
  | nil =>
    have none : before = [] := byteSize_eq_zero (by rw [← length_encode, full]; rfl)
    subst none
    rfl
  | cons b bs =>
    have size : byteSize before = bs.length + 1 := by rw [← length_encode, full]; rfl
    have last : (encode (before ++ ahead))[bs.length]? = (encode before).getLast? := by
      rw [encode_append, full, List.getLast?_eq_getElem?, List.length_cons,
        List.getElem?_append_left (by simp)]
      rfl
    have ends := ascii_isWordChar.getLast?_encode before
    rw [full, List.getLast?_eq_some_getLast (List.cons_ne_nil b bs)] at last ends
    rw [precededByWord, size, if_neg (Nat.succ_ne_zero _), Nat.add_sub_cancel, last]
    exact congrArg Except.ok ends

/-- The first octet of a character is in a class of ASCII characters if the character is. -/
theorem octet_iff {p : Char → Bool} (ascii : Ascii p) {c : Char} {b : UInt8} {bs : Bytes}
    (shape : String.utf8EncodeChar c = b :: bs) : p (byteChar b) = p c := by
  have first := ascii.head?_encode [c]
  rw [encode_cons, encode_nil, List.append_nil, shape] at first
  exact first

/-- The span of a token that stands after a text. -/
def spanAfter (before : Text) (token : Token) : Span :=
  ⟨token.kind, byteSize before, byteSize (before ++ token.text)⟩

section Bare

variable {c : Char} {cs : Text} {b : UInt8} {bs : Bytes} {r : Token × Text}

theorem wordOrSingle_eq (shape : String.utf8EncodeChar c = b :: bs)
    (read : (Token.word? (c :: cs) <|> Token.single? (c :: cs)) = some r) :
    wordOrSingle (before ++ c :: cs) (byteSize before) (byteChar b) =
      .ok (spanAfter before r.1) := by
  rw [wordOrSingle, octet_iff ascii_isWordChar shape, octet_iff ascii_isPunctuation shape]
  cases inside : isWordChar c with
  | true =>
    have run : (c :: cs).takeWhile isWordChar = c :: cs.takeWhile isWordChar :=
      List.takeWhile_cons_of_pos inside
    have width : ((encode (c :: cs)).takeWhile isWordByte).length =
        byteSize (c :: cs.takeWhile isWordChar) := by
      rw [← run, ← length_encode]
      exact congrArg List.length (ascii_isWordChar.takeWhile_encode (c :: cs))
    have lexeme : textBetween (before ++ c :: cs) (byteSize before)
        (byteSize before + byteSize (c :: cs.takeWhile isWordChar)) =
          .ok (c :: cs.takeWhile isWordChar) := by
      have parts := textBetween_append before (c :: cs.takeWhile isWordChar)
        (cs.dropWhile isWordChar)
      rwa [List.cons_append, List.takeWhile_append_dropWhile, byteSize_append] at parts
    simp only [Token.word?, inside, if_true, Option.orElse_eq_orElse, Option.orElse_eq_or,
      Option.some_or, Option.some_inj] at read
    subst read
    rw [if_pos rfl, drop_encode, width]
    simp only [lexeme]
    rw [spanAfter, byteSize_append]
    rfl
  | false =>
    simp only [Token.word?, inside, Token.single?] at read
    cases read
    rw [if_neg (by decide), textFrom_append]
    change Except.ok (_ : Span) = _
    rw [spanAfter, byteSize_append]
    rfl

theorem numberOrWord_eq (shape : String.utf8EncodeChar c = b :: bs)
    (read : (Token.number? (c :: cs) <|> Token.word? (c :: cs) <|> Token.single? (c :: cs)) =
      some r) :
    numberOrWord (before ++ c :: cs) (byteSize before) (byteChar b) =
      .ok (spanAfter before r.1) := by
  rw [numberOrWord, octet_iff ascii_isDigit shape, numberEnd_eq]
  cases digit : c.isDigit with
  | false =>
    simp only [Token.number?, digit] at read
    exact wordOrSingle_eq shape read
  | true =>
    cases follows : startsWithWord (Token.takeNumber (c :: cs)).2 with
    | true =>
      simp only [Token.number?, digit, follows] at read
      exact wordOrSingle_eq shape read
    | false =>
      simp only [Token.number?, digit, follows] at read
      cases read
      rfl

theorem leadingPhraseEnd_eq (shape : String.utf8EncodeChar c = b :: bs) :
    leadingPhraseEnd (before ++ c :: cs) (byteSize before) (byteChar b) =
      .ok ((Token.phrase? Phrase.all (endsWithWord before) (c :: cs)).map
        fun r => byteSize (before ++ r.1.text)) := by
  rw [leadingPhraseEnd, octet_iff ascii_isAlpha shape, precededByWord_eq, Token.phrase?]
  cases letter : c.isAlpha with
  | false => rfl
  | true =>
    cases led : endsWithWord before with
    | true => rfl
    | false =>
      change firstPhraseEnd (before ++ c :: cs) (byteSize before) Phrase.all = _
      rw [firstPhraseEnd_eq Phrase.table_all.wellFormed]
      cases Phrase.all.findSome? fun p => Token.takePhrase? p (c :: cs) <;> rfl

theorem bare_eq (shape : String.utf8EncodeChar c = b :: bs)
    (read : (Token.phrase? Phrase.all (endsWithWord before) (c :: cs) <|>
      Token.number? (c :: cs) <|> Token.word? (c :: cs) <|> Token.single? (c :: cs)) = some r) :
    bare (before ++ c :: cs) (byteSize before) (byteChar b) = .ok (spanAfter before r.1) := by
  rw [bare, leadingPhraseEnd_eq shape]
  cases found : Token.phrase? Phrase.all (endsWithWord before) (c :: cs) with
  | none =>
    rw [found] at read
    exact numberOrWord_eq shape read
  | some s =>
    rw [found] at read
    cases read
    have kind : r.1.kind = .keywordPhrase := by
      rw [Token.phrase?] at found
      split at found
      · obtain ⟨parts, -, rfl⟩ := Option.map_eq_some_iff.1 found
        rfl
      · cases found
    rw [spanAfter, kind]
    rfl

end Bare

theorem spanAfter_extend (before : Text) (kind : TokenKind) (front : Text) (parts : Text × Text) :
    spanAfter before (Token.ofParts kind (extend front parts)).1 =
      ⟨kind, byteSize before, byteSize before + byteSize front + byteSize parts.1⟩ := by
  rw [spanAfter, Nat.add_assoc, ← byteSize_append, ← byteSize_append]
  rfl

section First

variable {c : Char} {cs : Text} {b : UInt8} {bs : Bytes}

theorem first_iff (shape : String.utf8EncodeChar c = b :: bs) {d : Char} (small : d.toNat < 128) :
    byteChar b = d ↔ c = d := by
  have first := octet_iff (ascii_beq small) shape
  rwa [Bool.eq_iff_iff, beq_iff_eq, beq_iff_eq] at first

theorem alone_of_ascii (shape : String.utf8EncodeChar c = b :: bs) (small : c.toNat < 128) :
    bs = [] := by
  obtain ⟨b', single, -⟩ := encodeChar_ascii small
  rw [single] at shape
  cases shape
  rfl

theorem second_iff (shape : String.utf8EncodeChar c = b :: bs) {d e : Char}
    (small : d.toNat < 128) (small' : e.toNat < 128) :
    byteChar b = d ∧ (bs ++ encode cs).head?.map byteChar = some e ↔
      c = d ∧ cs.head? = some e := by
  rw [first_iff shape small]
  refine and_congr_right fun same => ?_
  rw [alone_of_ascii shape (same ▸ small), List.nil_append]
  exact head?_encode_eq small' cs

/-- After an opener of two characters there are the octets of the text after both. -/
theorem octets_second (shape : String.utf8EncodeChar c = b :: bs) (small : c.toNat < 128) {d : Char}
    (small' : d.toNat < 128) : (bs ++ encode (d :: cs)).drop 1 = encode cs := by
  obtain ⟨b', single, -⟩ := encodeChar_ascii small'
  rw [alone_of_ascii shape small, List.nil_append, encode_cons, single]
  rfl

end First

/-- What the cursor reads at an offset between characters is the first token from there on. -/
theorem next_eq : next (before ++ ahead) (byteSize before) =
    .ok ((Token.cut? Phrase.all (endsWithWord before) ahead).map
      fun r => spanAfter before r.1) := by
  cases ahead with
  | nil =>
    rw [next, drop_encode, encode_nil]
    rfl
  | cons c cs =>
    obtain ⟨b, bs, shape⟩ := encodeChar_cons c
    have dash : byteChar b = '-' ∧ (bs ++ encode cs).head?.map byteChar = some '-' ↔
        c = '-' ∧ cs.head? = some '-' := second_iff shape (by decide) (by decide)
    have star : byteChar b = '/' ∧ (bs ++ encode cs).head?.map byteChar = some '*' ↔
        c = '/' ∧ cs.head? = some '*' := second_iff shape (by decide) (by decide)
    have single : byteChar b = '\'' ↔ c = '\'' := first_iff shape (by decide)
    have double : byteChar b = '"' ↔ c = '"' := first_iff shape (by decide)
    have back : byteChar b = Token.backquote ↔ c = Token.backquote := first_iff shape (by decide)
    rw [next, drop_encode, encode_cons, shape, List.cons_append, Token.cut?,
      Token.lineComment?_cons, Token.blockComment?_cons, Token.string?, Token.quotedIdentifier?]
    simp only [dash, star, single, double, back]
    by_cases line : c = '-' ∧ cs.head? = some '-'
    · rw [if_pos line, if_pos line]
      obtain ⟨rfl, follows⟩ := line
      obtain ⟨ds, rfl⟩ := List.head?_eq_some_iff.1 follows
      rw [octets_second shape (by decide) (by decide), widthThrough_encode (by decide)]
      exact congrArg (Except.ok ∘ some) (spanAfter_extend before _ ['-', '-'] _).symm
    rw [if_neg line, if_neg line]
    by_cases block : c = '/' ∧ cs.head? = some '*'
    · rw [if_pos block, if_pos block]
      obtain ⟨rfl, follows⟩ := block
      obtain ⟨ds, rfl⟩ := List.head?_eq_some_iff.1 follows
      rw [octets_second shape (by decide) (by decide), widthThroughClose_encode]
      exact congrArg (Except.ok ∘ some) (spanAfter_extend before _ ['/', '*'] _).symm
    rw [if_neg block, if_neg block]
    by_cases quoted : c = '\'' ∨ c = '"'
    · rw [if_pos quoted, if_pos quoted]
      have small : c.toNat < 128 := by rcases quoted with rfl | rfl <;> decide
      rw [alone_of_ascii shape small, List.nil_append, (first_iff shape small).2 rfl,
        widthThroughQuote_encode small]
      have size : byteSize [c] = 1 := utf8Size_ascii small
      rw [← size]
      exact congrArg (Except.ok ∘ some) (spanAfter_extend before _ [c] _).symm
    rw [if_neg quoted, if_neg quoted]
    by_cases backquoted : c = Token.backquote
    · rw [if_pos backquoted, if_pos backquoted]
      subst backquoted
      rw [alone_of_ascii shape (by decide), List.nil_append, widthThrough_encode (by decide)]
      exact congrArg (Except.ok ∘ some) (spanAfter_extend before _ [Token.backquote] _).symm
    rw [if_neg backquoted, if_neg backquoted]
    obtain ⟨r, read⟩ : ∃ r, (Token.phrase? Phrase.all (endsWithWord before) (c :: cs) <|>
        Token.number? (c :: cs) <|> Token.word? (c :: cs) <|> Token.single? (c :: cs)) =
          some r := by
      cases Token.phrase? Phrase.all (endsWithWord before) (c :: cs) <;>
        cases Token.number? (c :: cs) <;> cases Token.word? (c :: cs) <;> exact ⟨_, rfl⟩
    rw [bare_eq shape read]
    exact congrArg (fun r => Except.ok (r.map fun r => spanAfter before r.1)) read.symm

end Sql.Cursor

end QueryDesk
