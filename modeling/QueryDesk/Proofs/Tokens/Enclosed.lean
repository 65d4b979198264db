import QueryDesk.Proofs.Tokens.Barrier

/-!
# Enclosed text

Comments, strings and quoted identifiers that are closed again enclose text in which no token is
looked for. What may stand there depends on the delimiter alone (`Delimiter.Admits`), and any such
text is as good as another one. Tokens before it see no more of it than how it opens
(`Delimiter.glance_enclose`), and it ends at its own close (`Delimiter.obeys`). So another interior
changes the length of one span and nothing else: `interior_unread`.
-/

set_option autoImplicit false

namespace QueryDesk.Sql

open Text

/-- What is put around text that is not read. -/
inductive Delimiter where
  /-- Two dashes and the line feed. -/
  | dashes
  /-- A slash with a star, and a star with a slash. -/
  | brackets
  | singleQuotes
  | doubleQuotes
  | backquotes
  deriving DecidableEq, Repr

namespace Delimiter

def rule : Delimiter → Rule
  | dashes => .lineComment
  | brackets => .blockComment
  | singleQuotes => .string
  | doubleQuotes => .string
  | backquotes => .quotedIdentifier

def kind : Delimiter → TokenKind
  | dashes => .comment
  | brackets => .comment
  | singleQuotes => .string
  | doubleQuotes => .string
  | backquotes => .quotedIdentifier

def opening : Delimiter → Text
  | dashes => ['-', '-']
  | brackets => ['/', '*']
  | singleQuotes => ['\'']
  | doubleQuotes => ['"']
  | backquotes => [Token.backquote]

def closing : Delimiter → Text
  | dashes => ['\n']
  | brackets => ['*', '/']
  | singleQuotes => ['\'']
  | doubleQuotes => ['"']
  | backquotes => [Token.backquote]

/-- The character that the delimiter opens with. -/
def mark : Delimiter → Char
  | dashes => '-'
  | brackets => '/'
  | singleQuotes => '\''
  | doubleQuotes => '"'
  | backquotes => Token.backquote

/-- Which texts the delimiter can enclose. -/
def Admits : Delimiter → Text → Prop
  | dashes, interior => '\n' ∉ interior
  | brackets, interior => ¬ ['*', '/'] <:+: interior
  | singleQuotes, interior => QuoteBody '\'' interior
  | doubleQuotes, interior => QuoteBody '"' interior
  | backquotes, interior => Token.backquote ∉ interior

def enclose (d : Delimiter) (interior : Text) : Text := d.opening ++ (interior ++ d.closing)

/-- The quote that stands for itself when it is doubled. -/
def quote? : Delimiter → Option Char
  | singleQuotes => some '\''
  | doubleQuotes => some '"'
  | _ => none

/-- Nothing that follows doubles the closing quote. -/
def Alone (d : Delimiter) (after : Text) : Prop := ∀ q, d.quote? = some q → after.head? ≠ some q

variable {phrases : List Phrase} {before after interior : Text}

theorem enclose_cons (d : Delimiter) (interior after : Text) :
    ∃ y, d.enclose interior ++ after = d.mark :: y := by
  cases d <;> exact ⟨_, rfl⟩

/-- The star of the close does not close the comment one character early. -/
theorem not_closed_early (admits : ¬ ['*', '/'] <:+: interior) :
    ¬ ['*', '/'] <:+: interior ++ ['*'] := by
  intro found
  rcases pair_of_append found with here | there | ⟨-, first⟩
  · exact admits here
  · exact absurd there.length_le (by decide)
  · cases first

theorem takes {d : Delimiter} (admits : d.Admits interior) (alone : d.Alone after) :
    d.rule.Takes phrases before ⟨d.kind, d.enclose interior⟩ after := by
  cases d with
  | dashes => exact .lineComment admits
  | brackets => exact .blockComment (not_closed_early admits)
  | singleQuotes => exact .string (.inl rfl) ⟨admits, alone _ rfl⟩
  | doubleQuotes => exact .string (.inr rfl) ⟨admits, alone _ rfl⟩
  | backquotes => exact .quotedIdentifier admits

/-- Where a delimiter opens, no rule tried before its own one applies. -/
theorem idle (table : Phrase.Table phrases) (d : Delimiter) :
    ∀ e ∈ d.rule.earlier, ¬ e.Applies phrases before (d.enclose interior ++ after) := by
  intro e earlier applies
  obtain ⟨y, shape⟩ := d.enclose_cons interior after
  rw [shape] at applies
  have apart : e ∈ Rule.phrase.earlier ∧ d.mark ∉ e.starts := by
    revert earlier
    cases d <;> cases e <;> decide
  exact apart.2 (applies.starts table apart.1)

theorem obeys (table : Phrase.Table phrases) {d : Delimiter} (admits : d.Admits interior)
    (alone : d.Alone after) : Obeys phrases before ⟨d.kind, d.enclose interior⟩ after :=
  ⟨d.rule, takes admits alone, d.idle table⟩

/-- Of what is enclosed only the first character of the delimiter can be seen. -/
theorem glance_enclose (d : Delimiter) (interior interior' after : Text) :
    glance (d.enclose interior ++ after) = glance (d.enclose interior' ++ after) := by
  have seen : isBlank d.mark = false ∧ isWordChar d.mark = false ∧ d.mark ≠ '.' := by
    cases d <;> decide
  have stop (y : Text) : glance (d.mark :: y) = [d.mark] :=
    glance_mark seen.1 seen.2.1 fun point => absurd point seen.2.2
  obtain ⟨y, shape⟩ := d.enclose_cons interior after
  obtain ⟨y', shape'⟩ := d.enclose_cons interior' after
  rw [shape, shape', stop, stop]

end Delimiter

/-- Whether a kind is one of text that is opened and closed. -/
def TokenKind.IsRegion (kind : TokenKind) : Prop :=
  kind = .comment ∨ kind = .string ∨ kind = .quotedIdentifier

theorem Delimiter.isRegion (d : Delimiter) : d.kind.IsRegion := by
  cases d <;> simp [TokenKind.IsRegion, Delimiter.kind]

variable {phrases : List Phrase} {before after : Text} {t : Token}

/-- A region is enclosed by a delimiter, or it is open and runs to the end. -/
theorem Obeys.enclosed_or_open (obeys : Obeys phrases before t after) (region : t.kind.IsRegion) :
    (∃ (d : Delimiter) (interior : Text), t.kind = d.kind ∧ t.text = d.enclose interior ∧
      d.Admits interior ∧ d.Alone after) ∨ after = [] := by
  obtain ⟨rule, taken, -⟩ := obeys
  cases taken with
  | @lineComment _ body _ one => exact .inl ⟨.dashes, body, rfl, rfl, one, nofun⟩
  | @blockComment _ body _ first =>
    exact .inl ⟨.brackets, body, rfl, rfl,
      fun found => first (found.trans (List.prefix_append ..).isInfix), nofun⟩
  | @string _ body _ quote quoted closes =>
    have alone (q : Char) (same : some quote = some q) : after.head? ≠ some q :=
      Option.some.inj same ▸ closes.2
    rcases quoted with rfl | rfl
    · exact .inl ⟨.singleQuotes, body, rfl, rfl, closes.1, alone⟩
    · exact .inl ⟨.doubleQuotes, body, rfl, rfl, closes.1, alone⟩
  | @quotedIdentifier _ body _ one => exact .inl ⟨.backquotes, body, rfl, rfl, one, nofun⟩
  | lineCommentToEnd => exact .inr rfl
  | blockCommentToEnd => exact .inr rfl
  | stringToEnd => exact .inr rfl
  | quotedIdentifierToEnd => exact .inr rfl
  | phrase => simp [TokenKind.IsRegion] at region
  | wholeNumber => simp [TokenKind.IsRegion] at region
  | fraction => simp [TokenKind.IsRegion] at region
  | word =>
    unfold TokenKind.IsRegion Token.wordKind at region
    split at region <;> simp at region
  | single => split at region <;> simp [TokenKind.IsRegion] at region

/-- After an enclosed text its quote does not follow. -/
theorem Obeys.alone (obeys : Obeys phrases before t after) {d : Delimiter} {interior : Text}
    (kind : t.kind = d.kind) (text : t.text = d.enclose interior) : d.Alone after := by
  rcases obeys.enclosed_or_open (kind ▸ d.isRegion) with ⟨d', interior', -, text', -, alone⟩ | rfl
  · obtain ⟨y, shape⟩ := d.enclose_cons interior []
    obtain ⟨y', shape'⟩ := d'.enclose_cons interior' []
    rw [← text, text', shape'] at shape
    have marks := (List.cons.inj shape).1
    have quotes : d.quote? = d'.quote? := by
      revert marks
      cases d <;> cases d' <;> decide
    intro q same
    exact alone q (quotes ▸ same)
  · intro q same
    simp

namespace Span

/-- A source with another text in the place of a span. -/
def replace (source : Text) (s : Span) (t : Text) : Text :=
  takeBytes source s.start ++ (t ++ dropBytes source s.stop)

/-- A span that starts where another one does and holds a given text. -/
def resize (s : Span) (t : Text) : Span := ⟨s.kind, s.start, s.start + byteSize t⟩

/-- A span of a source that is enclosed by a delimiter. -/
structure Encloses (source : Text) (s : Span) (d : Delimiter) (interior : Text) : Prop where
  read : s ∈ raw source
  kind : s.kind = d.kind
  text : s.text source = d.enclose interior
  admits : d.Admits interior

theorem replace_eq {source : Text} {s : Span} {before text after : Text}
    (shape : source = before ++ (text ++ after)) (start : s.start = byteSize before)
    (stop : s.stop = byteSize (before ++ text)) (t : Text) :
    replace source s t = before ++ (t ++ after) := by
  unfold replace
  rw [start, stop, shape, takeBytes_append, ← List.append_assoc before text after, dropBytes_append]

end Span

/-- Whether tokens end in a semicolon does not depend on what a region of them holds. -/
theorem endsInSemicolon_region {kind : TokenKind} (region : kind.IsRegion) (x y : Text)
    (front back : List Token) :
    endsInSemicolon (front ++ ⟨kind, x⟩ :: back) =
      endsInSemicolon (front ++ ⟨kind, y⟩ :: back) := by
  have significant : (⟨kind, x⟩ : Token).isSignificant = (⟨kind, y⟩ : Token).isSignificant := by
    rcases region with rfl | rfl | rfl <;> rfl
  have semicolon (t : Text) : (⟨kind, t⟩ : Token).isSemicolon = false := by
    apply Token.not_isSemicolon_of_kind
    rcases region with rfl | rfl | rfl <;> simp
  induction front with
  | nil =>
    rw [List.nil_append, List.nil_append, endsInSemicolon_cons, endsInSemicolon_cons, semicolon,
      semicolon]
  | cons t ts ih =>
    have some : (ts ++ ⟨kind, x⟩ :: back).any Token.isSignificant =
        (ts ++ ⟨kind, y⟩ :: back).any Token.isSignificant := by
      simp only [List.any_append, List.any_cons, significant]
    rw [List.cons_append, List.cons_append, endsInSemicolon_cons, endsInSemicolon_cons, some, ih]

namespace Span

/-- With another interior in one of its tokens a source has the same tokens otherwise. -/
theorem split_replace {source : Text} {s : Span} {d : Delimiter} {interior interior' : Text}
    {front back : List Token} (divided : Token.split source = front ++ s.token source :: back)
    (kind : s.kind = d.kind) (text : s.text source = d.enclose interior)
    (admits' : d.Admits interior') :
    Token.split (Token.concat front ++ (d.enclose interior' ++ Token.concat back)) =
      front ++ ⟨d.kind, d.enclose interior'⟩ :: back := by
  have stands := (Token.split_eq_iff_stands.1 divided).2
  have alone : d.Alone (Token.concat back) := stands.rest.1.alone kind text
  refine Token.split_eq_iff_stands.2 ⟨Token.concat_append .., ?_⟩
  apply stands.carry_front Phrase.table_all
  · rw [Token.concat, Token.concat, List.flatMap_cons, List.flatMap_cons, token, text]
    exact d.glance_enclose interior interior' _
  · exact ⟨d.obeys Phrase.table_all admits' alone, stands.rest.2⟩

/-- Two sources have the same spans, but for one in each. The spans behind it are as far from its
end, and no other span reaches into it. -/
structure SameAround (source source' : Text) (s s' : Span) : Prop where
  spans : ∃ earlier later : List Span,
    raw source = earlier ++ s :: later.map (shift s.stop) ∧
    raw source' = earlier ++ s' :: later.map (shift s'.stop) ∧
    earlier.map (token source') = earlier.map (token source) ∧
    (later.map (shift s'.stop)).map (token source') =
      (later.map (shift s.stop)).map (token source)
  apart : ∀ u ∈ raw source', u = s' ∨ u.stop ≤ s'.start ∨ s'.stop ≤ u.start

/-- Sources whose tokens are the same but for the text of one. -/
theorem sameAround_of_split {source source' : Text} {front back : List Token} {kind : TokenKind}
    {x y : Text} (divided : Token.split source = front ++ ⟨kind, x⟩ :: back)
    (divided' : Token.split source' = front ++ ⟨kind, y⟩ :: back) {start : Nat}
    (begins : start = byteSize (Token.concat front)) :
    SameAround source source' ⟨kind, start, start + byteSize x⟩
      ⟨kind, start, start + byteSize y⟩ := by
  have spans := raw_around divided begins rfl
  have spans' := raw_around divided' begins rfl
  have shape (z : Text) : Token.concat (front ++ ⟨kind, z⟩ :: back) =
      Token.concat front ++ (z ++ Token.concat back) := Token.concat_append ..
  have tokens (z : Text) :
      (layOut 0 front).map (token (Token.concat front ++ (z ++ Token.concat back))) = front ∧
      ((layOut 0 back).map (shift (start + byteSize z))).map
        (token (Token.concat front ++ (z ++ Token.concat back))) = back := by
    have before := map_token_layOut [] front (z ++ Token.concat back)
    have behind := map_token_layOut (Token.concat front ++ z) back []
    rw [List.append_nil, List.append_assoc, byteSize_append, ← begins] at behind
    rw [map_shift_layOut, Nat.zero_add]
    exact ⟨before, behind⟩
  have whole := Token.concat_split source
  have whole' := Token.concat_split source'
  rw [divided, shape] at whole
  rw [divided', shape] at whole'
  have tiles := ((eq_raw_iff source' _).1 rfl).1
  rw [spans'] at tiles
  constructor
  case spans =>
    refine ⟨layOut 0 front, layOut 0 back, spans, spans', ?_, ?_⟩
    · rw [← whole, ← whole', (tokens x).1, (tokens y).1]
    · rw [← whole, ← whole', (tokens x).2, (tokens y).2]
  case apart =>
    rw [spans']
    exact tiles.apart

/-- What a closed comment, string or quoted identifier encloses is not read. Such a span is enclosed
by a delimiter, or it is open and runs to the end of the source. If it is enclosed, any other text
that the delimiter can enclose may stand in it: the other spans are those of before, only moved, and
whether the source is complete is the same. -/
theorem interior_unread (source : Text) :
    (∀ s ∈ raw source, s.kind.IsRegion →
      (∃ d interior, s.Encloses source d interior) ∨ s.stop = byteSize source) ∧
    ∀ (s : Span) (d : Delimiter) (interior : Text), s.Encloses source d interior →
      ∀ interior', d.Admits interior' →
        SameAround source (s.replace source (d.enclose interior')) s
          (s.resize (d.enclose interior')) ∧
        (s.resize (d.enclose interior')).text (s.replace source (d.enclose interior')) =
          d.enclose interior' ∧
        isComplete (s.replace source (d.enclose interior')) = isComplete source := by
  constructor
  · intro s read region
    obtain ⟨front, back, divided, shape, start, stop⟩ := exists_tokens read
    have obeys := (Token.split_eq_iff_stands.1 divided).2.rest.1
    rcases obeys.enclosed_or_open region with ⟨d, interior, kind, text, admits, -⟩ | none
    · exact .inl ⟨d, interior, read, kind, text, admits⟩
    · right
      rw [none, List.append_nil] at shape
      rw [stop, start, ← byteSize_append, ← shape]
  · rintro s d interior ⟨read, kind, text, admits⟩ interior' admits'
    obtain ⟨front, back, divided, shape, start, stop⟩ := exists_tokens read
    have ends : s.stop = byteSize (Token.concat front ++ s.text source) := by
      rw [stop, start, byteSize_append]
    have divided' := split_replace divided kind text admits'
    rw [← replace_eq shape start ends, ← kind] at divided'
    have region : s.kind.IsRegion := kind ▸ d.isRegion
    refine ⟨?_, ?_, ?_⟩
    · have around := sameAround_of_split divided divided' start
      rwa [← stop] at around
    · rw [replace_eq shape start ends, Span.text, resize, start, ← byteSize_append]
      exact slice_between _ _ _
    · rw [isComplete_eq, isComplete_eq, divided, divided']
      exact endsInSemicolon_region region _ _ front back

/-- A semicolon and the openers of comments in a string are as good as any other text there. -/
theorem interior_unread_string :
    Encloses "SELECT 'a''; --', 1; -- b".toList ⟨.string, 7, 16⟩ .singleQuotes "a''; --".toList ∧
      Delimiter.Admits .singleQuotes "/*".toList ∧
      SameAround "SELECT 'a''; --', 1; -- b".toList "SELECT '/*', 1; -- b".toList
        ⟨.string, 7, 16⟩ ⟨.string, 7, 11⟩ ∧
      isComplete "SELECT '/*', 1; -- b".toList = true := by
  have inside : Delimiter.Admits .singleQuotes "a''; --".toList :=
    .other (by decide) (.doubled (.other (by decide) (.other (by decide) (.other (by decide)
      (.other (by decide) .nil)))))
  have inside' : Delimiter.Admits .singleQuotes "/*".toList :=
    .other (by decide) (.other (by decide) .nil)
  have encloses : Encloses "SELECT 'a''; --', 1; -- b".toList ⟨.string, 7, 16⟩ .singleQuotes
      "a''; --".toList := ⟨by decide +kernel, rfl, by decide +kernel, inside⟩
  have unread := (interior_unread _).2 _ _ _ encloses _ inside'
  have source' : Span.replace "SELECT 'a''; --', 1; -- b".toList ⟨.string, 7, 16⟩
      (Delimiter.enclose .singleQuotes "/*".toList) = "SELECT '/*', 1; -- b".toList := by
    decide +kernel
  rw [source'] at unread
  exact ⟨encloses, inside', unread.1, unread.2.2.trans (by decide +kernel)⟩

end Span

end QueryDesk.Sql
