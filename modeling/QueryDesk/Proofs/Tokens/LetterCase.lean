import QueryDesk.Proofs.Text.LetterCase
import QueryDesk.Proofs.Tokens.Semicolons
import QueryDesk.Proofs.Tokens.Tiling

/-!
# Tokens and the case of letters

Every rule of tokens looks at classes of characters that cannot tell the cases apart, or at words in
capitals. So the reader of each rule takes the same part of a text in capitals
(`Rule.reader?_upper`), and the tokens of that text are those of the text itself in capitals
(`split_upper`). Nothing else enters into the spans of a text and into whether it is complete.
-/

set_option autoImplicit false

namespace QueryDesk.Sql

open Text

namespace Token

/-- The same token in capitals. -/
def capitals (t : Token) : Token := ⟨t.kind, upper t.text⟩

/-- What a cut gives back, in capitals. -/
def cutCapitals (r : Token × Text) : Token × Text := (r.1.capitals, upper r.2)

theorem throughClose_upper (t : Text) : throughClose (upper t) = upperParts (throughClose t) := by
  fun_induction throughClose t with
  | case1 cs => rfl
  | case2 c cs apart ih =>
    rw [upper_cons, throughClose, ih]
    · exact (upperParts_extend [c] _).symm
    · intro rest star slash
      cases cs with
      | nil => cases slash
      | cons d ds =>
        obtain ⟨slash, -⟩ := List.cons.inj slash
        rw [toUpper_eq_iff rfl] at star slash
        exact apart ds star (slash ▸ rfl)
  | case3 => rfl

theorem throughQuote_upper {quote : Char} (caseless : quote.isAlpha = false) (t : Text) :
    throughQuote quote (upper t) = upperParts (throughQuote quote t) := by
  fun_induction throughQuote quote t with
  | case1 => rfl
  | case2 c => rfl
  | case3 cs ih =>
    have closes := (toUpper_eq_iff caseless quote).2 rfl
    simp only [upper_cons, throughQuote, closes, if_true, ih, upperParts_extend, upper_nil]
  | case4 d cs different =>
    have closes := (toUpper_eq_iff caseless quote).2 rfl
    have different' : d.toUpper ≠ quote := by rwa [ne_eq, toUpper_eq_iff caseless]
    simp only [upper_cons, throughQuote, closes, if_true, different', if_false, upperParts,
      upper_nil]
  | case5 c d cs different ih =>
    have different' : c.toUpper ≠ quote := by rwa [ne_eq, toUpper_eq_iff caseless]
    rw [upper_cons] at ih
    simp only [upper_cons, throughQuote, different', if_false, ih, upperParts_extend, upper_nil]

theorem map_extend_upperParts (front : Text) (found : Option (Text × Text)) :
    (found.map upperParts).map (extend (upper front)) =
      (found.map (extend front)).map upperParts := by
  rw [Option.map_map, Option.map_map]
  exact congrArg (Option.map · found) (funext fun r => (upperParts_extend front r).symm)

theorem takeWord?_upper (w t : Text) : takeWord? w (upper t) = (takeWord? w t).map upperParts := by
  induction w generalizing t with
  | nil => rfl
  | cons w ws ih =>
    cases t with
    | nil => rfl
    | cons c cs =>
      rw [upper_cons, takeWord?, takeWord?, toUpper_toUpper, ih]
      split
      · exact map_extend_upperParts [c] _
      · rfl

theorem takeWords?_upper (p : Phrase) (t : Text) :
    takeWords? p (upper t) = (takeWords? p t).map upperParts := by
  fun_induction takeWords? p t with
  | case1 t => rfl
  | case2 w t => exact takeWord?_upper w t
  | case3 w ws t more ih =>
    rw [takeWords?, takeWord?_upper, Option.bind_map, Option.map_bind]
    · refine congrArg (Option.bind (takeWord? w t)) (funext fun first => ?_)
      have gap := takeWhile_upper caseBlind_isBlank first.2
      have rest := dropWhile_upper caseBlind_isBlank first.2
      simp only [Function.comp_apply, upperParts, gap, rest, isEmpty_upper, ← upper_append, ih]
      split
      · rfl
      · exact map_extend_upperParts _ _
    · exact more

theorem takePhrase?_upper (p : Phrase) (t : Text) :
    takePhrase? p (upper t) = (takePhrase? p t).map upperParts := by
  rw [takePhrase?, takeWords?_upper, takePhrase?, Option.filter_map]
  refine congrArg (fun test => ((takeWords? p t).filter test).map upperParts) (funext fun r => ?_)
  simp only [Function.comp_apply, upperParts, isEmpty_upper, startsWithWord_upper]

theorem takeFraction_upper (t : Text) : takeFraction (upper t) = upperParts (takeFraction t) := by
  fun_cases takeFraction t with
  | case1 cs none =>
    change takeFraction ('.' :: upper cs) = _
    rw [takeFraction, takeWhile_upper caseBlind_isDigit, isEmpty_upper, if_pos none]
    rfl
  | case2 cs some =>
    change takeFraction ('.' :: upper cs) = _
    rw [takeFraction, takeWhile_upper caseBlind_isDigit, isEmpty_upper, if_neg some,
      dropWhile_upper caseBlind_isDigit]
    rfl
  | case3 t bare =>
    refine takeFraction_none fun d rest shape => ?_
    obtain ⟨c, cs, rfl⟩ := List.exists_cons_of_ne_nil fun none : t = [] => by
      rw [none] at shape
      cases shape
    have point := (toUpper_eq_iff rfl c).1 (List.cons.inj shape).1
    exact absurd (congrArg (· :: cs) point) (bare cs)

theorem takeNumber_upper (t : Text) : takeNumber (upper t) = upperParts (takeNumber t) := by
  rw [takeNumber, takeNumber, takeWhile_upper caseBlind_isDigit, dropWhile_upper caseBlind_isDigit,
    takeFraction_upper, upperParts_extend]

theorem wordKind_upper (word : Text) : wordKind (upper word) = wordKind word := by
  rw [wordKind, upper_upper, wordKind]

/-- The token of a cut whose front is known, in capitals. -/
theorem cutCapitals_ofParts (kind : TokenKind) (front : Text) (parts : Text × Text) :
    cutCapitals (ofParts kind (extend front parts)) =
      ofParts kind (extend (upper front) (upperParts parts)) := by
  rw [← upperParts_extend]
  rfl

end Token

section Readers

variable {phrases : List Phrase} {afterWord : Bool}

/-- Two characters without a case open a comment in capitals where they opened one. -/
theorem opens_upper {a b : Char} (caseless : a.isAlpha = false) (caseless' : b.isAlpha = false)
    (c : Char) (cs : Text) : (c.toUpper = a ∧ (upper cs).head? = some b) ↔
      (c = a ∧ cs.head? = some b) := by
  rw [toUpper_eq_iff caseless, head?_upper]
  cases cs with
  | nil => rfl
  | cons d ds => simp [toUpper_eq_iff caseless']

theorem upper_drop (n : Nat) (t : Text) : (upper t).drop n = upper (t.drop n) := List.map_drop.symm

namespace Token

theorem lineComment?_upper (c : Char) (cs : Text) : lineComment? (upper (c :: cs)) =
    (lineComment? (c :: cs)).map cutCapitals := by
  have dash : '-'.isAlpha = false := rfl
  have feed : CaseBlind (· == '\n') := caseBlind_beq rfl
  rw [upper_cons, lineComment?_cons, lineComment?_cons]
  simp only [opens_upper dash dash, upper_drop, through_upper feed]
  split
  · rw [Option.map_some, cutCapitals_ofParts]
    rfl
  · rfl

theorem blockComment?_upper (c : Char) (cs : Text) : blockComment? (upper (c :: cs)) =
    (blockComment? (c :: cs)).map cutCapitals := by
  have slash : '/'.isAlpha = false := rfl
  have star : '*'.isAlpha = false := rfl
  rw [upper_cons, blockComment?_cons, blockComment?_cons]
  simp only [opens_upper slash star, upper_drop, throughClose_upper]
  split
  · rw [Option.map_some, cutCapitals_ofParts]
    rfl
  · rfl

theorem string?_upper (c : Char) (cs : Text) : string? (upper (c :: cs)) =
    (string? (c :: cs)).map cutCapitals := by
  have single : '\''.isAlpha = false := rfl
  have double : '"'.isAlpha = false := rfl
  rw [upper_cons, string?, string?]
  simp only [toUpper_eq_iff single, toUpper_eq_iff double]
  split
  · rename_i quote
    have caseless : c.isAlpha = false := by rcases quote with rfl | rfl <;> rfl
    rw [Option.map_some, cutCapitals_ofParts, ← throughQuote_upper caseless,
      (toUpper_eq_iff caseless c).2 rfl, upper_cons, (toUpper_eq_iff caseless c).2 rfl]
    rfl
  · rfl

theorem quotedIdentifier?_upper (c : Char) (cs : Text) : quotedIdentifier? (upper (c :: cs)) =
    (quotedIdentifier? (c :: cs)).map cutCapitals := by
  have caseless : backquote.isAlpha = false := rfl
  have quote : CaseBlind (· == backquote) := caseBlind_beq rfl
  rw [upper_cons, quotedIdentifier?, quotedIdentifier?]
  simp only [toUpper_eq_iff caseless, through_upper quote]
  split
  · rw [Option.map_some, cutCapitals_ofParts]
    rfl
  · rfl

theorem phrase?_upper (c : Char) (cs : Text) : phrase? phrases afterWord (upper (c :: cs)) =
    (phrase? phrases afterWord (c :: cs)).map cutCapitals := by
  have first : (phrases.findSome? fun p => takePhrase? p (upper (c :: cs))) =
      (phrases.findSome? fun p => takePhrase? p (c :: cs)).map upperParts := by
    rw [List.map_findSome?]
    exact congrArg (phrases.findSome? ·) (funext fun p => takePhrase?_upper p (c :: cs))
  rw [upper_cons] at first ⊢
  rw [phrase?, phrase?, caseBlind_isAlpha c, first]
  split
  · rw [Option.map_map, Option.map_map]
    rfl
  · rfl

theorem number?_upper (c : Char) (cs : Text) : number? (upper (c :: cs)) =
    (number? (c :: cs)).map cutCapitals := by
  have number := takeNumber_upper (c :: cs)
  rw [upper_cons] at number ⊢
  rw [number?, number?, number, caseBlind_isDigit c]
  simp only [upperParts, startsWithWord_upper]
  split <;> rfl

theorem word?_upper (c : Char) (cs : Text) : word? (upper (c :: cs)) =
    (word? (c :: cs)).map cutCapitals := by
  have kind := wordKind_upper (c :: cs.takeWhile isWordChar)
  rw [upper_cons] at kind ⊢
  rw [word?, word?, caseBlind_isWordChar c, takeWhile_upper caseBlind_isWordChar,
    dropWhile_upper caseBlind_isWordChar, kind]
  split <;> rfl

theorem single?_upper (c : Char) (cs : Text) : single? (upper (c :: cs)) =
    (single? (c :: cs)).map cutCapitals := by
  rw [upper_cons, single?, single?, caseBlind_isPunctuation c]
  rfl

end Token

/-- The reader of a rule takes the same part of a text in capitals. -/
theorem Rule.reader?_upper (rule : Rule) (t : Text) : rule.reader? phrases afterWord (upper t) =
    (rule.reader? phrases afterWord t).map Token.cutCapitals := by
  cases t with
  | nil => cases rule <;> rfl
  | cons c cs =>
    cases rule with
    | lineComment => exact Token.lineComment?_upper c cs
    | blockComment => exact Token.blockComment?_upper c cs
    | string => exact Token.string?_upper c cs
    | quotedIdentifier => exact Token.quotedIdentifier?_upper c cs
    | phrase => exact Token.phrase?_upper c cs
    | number => exact Token.number?_upper c cs
    | word => exact Token.word?_upper c cs
    | single => exact Token.single?_upper c cs

end Readers

namespace Token

theorem cut?_upper (phrases : List Phrase) (afterWord : Bool) (t : Text) :
    cut? phrases afterWord (upper t) = (cut? phrases afterWord t).map cutCapitals := by
  rw [cut?_eq_findSome?, cut?_eq_findSome?, List.map_findSome?]
  exact congrArg (Rule.all.findSome? ·) (funext fun rule => rule.reader?_upper t)

theorem splitAfter_upper (phrases : List Phrase) (afterWord : Bool) (t : Text) :
    splitAfter phrases afterWord (upper t) = (splitAfter phrases afterWord t).map capitals := by
  fun_induction splitAfter phrases afterWord t with
  | case1 afterWord t none =>
    cases t with
    | nil => exact splitAfter_nil phrases afterWord
    | cons c cs => simp [cut?, single?] at none
  | case2 afterWord t token rest found ih =>
    have found' : cut? phrases afterWord (upper t) = some (token.capitals, upper rest) := by
      rw [cut?_upper, found]
      rfl
    have past : endsWithWord token.capitals.text = endsWithWord token.text := endsWithWord_upper _
    rw [splitAfter_cut found', past, ih, List.map_cons]

/-- The tokens of a text in capitals are those of the text, in capitals. -/
theorem split_upper (t : Text) : split (upper t) = (split t).map capitals :=
  splitAfter_upper Phrase.all false t

theorem joinPlain_capitals (t : Token) (ts : List Token) :
    joinPlain t.capitals (ts.map capitals) = (joinPlain t ts).map capitals := by
  cases ts with
  | nil => rfl
  | cons u us =>
    change (if t.kind = .plain ∧ u.kind = .plain then _ else _) =
      List.map capitals (if t.kind = .plain ∧ u.kind = .plain then _ else _)
    split
    · exact congrArg (⟨.plain, ·⟩ :: us.map capitals) (upper_append t.text u.text).symm
    · rfl

theorem merge_capitals (ts : List Token) : merge (ts.map capitals) = (merge ts).map capitals := by
  induction ts with
  | nil => rfl
  | cons t ts ih => rw [List.map_cons, merge, merge, ih, joinPlain_capitals]

theorem scan_upper (t : Text) : scan (upper t) = (scan t).map capitals := by
  rw [scan, split_upper, merge_capitals, scan]

theorem isSemicolon_capitals (t : Token) : t.capitals.isSemicolon = t.isSemicolon := by
  have same := upper_eq_singleton_iff (d := ';') rfl t.text
  rw [isSemicolon, isSemicolon, Bool.eq_iff_iff]
  simp only [capitals, Bool.and_eq_true, beq_iff_eq, same]

theorem isSignificant_capitals (t : Token) : t.capitals.isSignificant = t.isSignificant := by
  unfold isSignificant capitals
  rw [allBlank_upper]

end Token

theorem endsInSemicolon_capitals (ts : List Token) :
    endsInSemicolon (ts.map Token.capitals) = endsInSemicolon ts := by
  have significant : Token.isSignificant ∘ Token.capitals = Token.isSignificant :=
    funext Token.isSignificant_capitals
  have semicolon : Token.isSemicolon ∘ Token.capitals = Token.isSemicolon :=
    funext Token.isSemicolon_capitals
  rw [endsInSemicolon, List.filter_map, significant, List.getLast?_map, Option.any_map]
  exact congrArg (ts.filter Token.isSignificant).getLast?.any semicolon

theorem isComplete_upper (t : Text) : isComplete (upper t) = isComplete t := by
  rw [isComplete, Token.scan_upper, endsInSemicolon_capitals, isComplete]

namespace Span

theorem layOut_capitals (start : Nat) (ts : List Token) :
    layOut start (ts.map Token.capitals) = layOut start ts := by
  induction ts generalizing start with
  | nil => rfl
  | cons t ts ih =>
    have size : byteSize t.capitals.text = byteSize t.text := byteSize_upper t.text
    rw [List.map_cons, layOut, size, ih]
    rfl

theorem raw_upper (t : Text) : raw (upper t) = raw t := by
  rw [raw, Token.split_upper, layOut_capitals, raw]

theorem scan_upper (t : Text) : scan (upper t) = scan t := by
  rw [scan, Token.scan_upper, layOut_capitals, scan]

end Span

end QueryDesk.Sql
