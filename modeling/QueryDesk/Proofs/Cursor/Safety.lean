import QueryDesk.Proofs.Cursor.Agreement
import QueryDesk.Proofs.Tokens.Merging

/-!
# No read of the cursor fails

From an offset between characters the cursor moves on to another such offset, never past the end, so
it yields the spans of the tokens and stops. The spans, merged or not, tile the source between
offsets at which it can be cut, and whatever is made of their texts is made without a failed cut.

* `yields_layOut`: what the cursor yields from an offset on.
* `collect_layOut`: merging spans as they come is merging their tokens.
* `cursor_safe`: all of this for every source.
-/

set_option autoImplicit false

namespace QueryDesk.Sql.Cursor

open Text

theorem yields_unique {source : Text} {pos : Nat} {spans spans' : List Span}
    (yields : Yields source pos spans) (yields' : Yields source pos spans') : spans = spans' := by
  induction yields generalizing spans' with
  | done ends =>
    cases yields' with
    | done => rfl
    | step found => rw [ends] at found; cases found
  | step found rest ih =>
    cases yields' with
    | done ends => rw [ends] at found; cases found
    | step found' rest' =>
      rw [found'] at found
      cases found
      exact congrArg _ (ih rest')

theorem yields_layOut (before ahead : Text) :
    Yields (before ++ ahead) (byteSize before) (Span.layOut (byteSize before)
      (Token.splitAfter Phrase.all (endsWithWord before) ahead)) := by
  generalize past : endsWithWord before = afterWord
  fun_induction Token.splitAfter Phrase.all afterWord ahead generalizing before with
  | case1 afterWord ahead none =>
    refine .done ?_
    rw [next_eq, past, none]
    rfl
  | case2 afterWord ahead token rest found ih =>
    obtain ⟨full, whole⟩ := Token.cut_covers found
    have here : next (before ++ ahead) (byteSize before) = .ok (some (spanAfter before token)) := by
      rw [next_eq, past, found]
      rfl
    have more := ih (before ++ token.text) (endsWithWord_append full)
    rw [List.append_assoc, whole, byteSize_append] at more
    rw [spanAfter, byteSize_append] at here
    exact .step here more

theorem foldl_push (last : Span) (earlier spans : List Span) :
    spans.foldl push (last :: earlier) = spans.foldl push [last] ++ earlier := by
  induction spans generalizing last earlier with
  | nil => rfl
  | cons s ss ih =>
    rw [List.foldl_cons, List.foldl_cons, push, push]
    split
    · exact ih _ earlier
    · rw [ih s (last :: earlier), ih s [last], List.append_assoc]
      rfl

theorem collect_layOut_cons (start : Nat) (t : Token) (ts : List Token) :
    collect (Span.layOut start (t :: ts)) = Span.layOut start (Token.merge (t :: ts)) := by
  induction ts generalizing start t with
  | nil => rfl
  | cons u us ih =>
    by_cases both : t.kind = .plain ∧ u.kind = .plain
    · have one := ih start ⟨.plain, t.text ++ u.text⟩
      have joined : Token.merge (t :: u :: us) =
          Token.merge (⟨.plain, t.text ++ u.text⟩ :: us) :=
        Token.joinPlain_joinPlain both.1 both.2 (Token.merge us)
      rw [joined, ← one]
      simp only [collect, Span.layOut, List.foldl_cons, push, both.1, both.2, and_self, if_true,
        byteSize_append, Nat.add_assoc]
    · have rest := ih (start + byteSize t.text) u
      obtain ⟨v, vs, shape, kind⟩ := Token.merge_cons u us
      have apart : Token.merge (t :: u :: us) = t :: Token.merge (u :: us) := by
        rw [Token.merge, shape, Token.joinPlain_apart (kind ▸ both)]
      have laid : Span.layOut start (t :: Token.merge (u :: us)) =
          ⟨t.kind, start, start + byteSize t.text⟩ ::
            Span.layOut (start + byteSize t.text) (Token.merge (u :: us)) := rfl
      rw [apart, laid, ← rest]
      simp only [collect, Span.layOut, List.foldl_cons, push, if_neg both]
      rw [foldl_push, List.reverse_append]
      rfl

theorem collect_layOut (start : Nat) (ts : List Token) :
    collect (Span.layOut start ts) = Span.layOut start (Token.merge ts) := by
  cases ts with
  | nil => rfl
  | cons t ts => exact collect_layOut_cons start t ts

theorem tokens_layOut (before : Text) (ts : List Token) (after : Text) :
    tokens (before ++ (Token.concat ts ++ after)) (Span.layOut (byteSize before) ts) = .ok ts := by
  induction ts generalizing before with
  | nil => rfl
  | cons t ts ih =>
    have rest := ih (before ++ t.text)
    have here := textBetween_append before t.text (Token.concat ts ++ after)
    rw [byteSize_append] at rest here
    rw [Token.concat, List.flatMap_cons, ← Token.concat, List.append_assoc]
    rw [List.append_assoc] at rest
    rw [tokens, Span.layOut, List.mapM_cons, here]
    change (do
      let more ← tokens (before ++ (t.text ++ (Token.concat ts ++ after)))
        (Span.layOut (byteSize before + byteSize t.text) ts)
      pure (t :: more)) = Except.ok (t :: ts)
    rw [rest]
    rfl

theorem boundary_layOut (before : Text) (ts : List Token) (after : Text) :
    ∀ s ∈ Span.layOut (byteSize before) ts,
      Boundary (before ++ (Token.concat ts ++ after)) s.start ∧
        Boundary (before ++ (Token.concat ts ++ after)) s.stop := by
  induction ts generalizing before with
  | nil => intro s member; cases member
  | cons t ts ih =>
    have rest := ih (before ++ t.text)
    rw [byteSize_append, List.append_assoc] at rest
    rw [Token.concat, List.flatMap_cons, ← Token.concat, List.append_assoc]
    intro s member
    rcases List.mem_cons.1 member with rfl | member
    · exact ⟨⟨before, _, rfl, rfl⟩,
        ⟨before ++ t.text, _, (List.append_assoc ..).symm, byteSize_append ..⟩⟩
    · exact rest s member

theorem length_le_of_tiles {stop start : Nat} {spans : List Span}
    (tiles : Span.Tiles stop start spans) : start + spans.length ≤ stop := by
  induction spans generalizing start with
  | nil => exact Nat.le_of_eq tiles
  | cons s ss ih =>
    obtain ⟨rfl, forward, rest⟩ := tiles
    have := ih rest
    rw [List.length_cons]
    omega

/-- A text can be cut exactly at its boundaries. -/
theorem cut_iff (t : Text) (n : Nat) : (∃ parts, cut t n = .ok parts) ↔ Boundary t n := by
  constructor
  · rintro ⟨parts, done⟩
    obtain ⟨shape, size⟩ := cut_eq_ok_iff.1 done
    exact ⟨parts.1, parts.2, shape, size⟩
  · rintro ⟨front, rest, shape, size⟩
    exact ⟨(front, rest), cut_eq_ok_iff.2 ⟨shape, size⟩⟩

/-- Before the end there is a span to read, and it ends between characters further on. -/
theorem next_advances {source : Text} {pos : Nat} (boundary : Boundary source pos) :
    (pos = byteSize source → next source pos = .ok none) ∧
      (pos < byteSize source → ∃ s, next source pos = .ok (some s) ∧ s.start = pos ∧
        pos < s.stop ∧ s.stop ≤ byteSize source ∧ Boundary source s.stop) := by
  obtain ⟨before, ahead, rfl, rfl⟩ := boundary
  refine ⟨fun ends => ?_, fun inside => ?_⟩
  · rw [byteSize_append] at ends
    have none : ahead = [] := byteSize_eq_zero (by omega)
    rw [next_eq, none]
    rfl
  · cases found : Token.cut? Phrase.all (endsWithWord before) ahead with
    | none =>
      cases ahead with
      | nil => rw [List.append_nil] at inside; exact absurd inside (Nat.lt_irrefl _)
      | cons c cs => simp [Token.cut?, Token.single?] at found
    | some r =>
      obtain ⟨full, whole⟩ := Token.cut_covers found
      have here : next (before ++ ahead) (byteSize before) = .ok (some (spanAfter before r.1)) := by
        rw [next_eq, found]
        rfl
      have stop : Boundary (before ++ ahead) (spanAfter before r.1).stop :=
        ⟨before ++ r.1.text, r.2, by rw [List.append_assoc, whole], rfl⟩
      have forward := byteSize_pos full
      refine ⟨_, here, rfl, ?_, stop.le, stop⟩
      change byteSize before < byteSize (before ++ r.1.text)
      rw [byteSize_append]
      omega

theorem yields_raw (source : Text) : Yields source 0 (Span.raw source) :=
  yields_layOut [] source

/-- Spans that cover a source and can be cut out of it. -/
structure Covering (source : Text) (spans : List Span) : Prop where
  tiles : Span.Tiles (byteSize source) 0 spans
  boundary : ∀ s ∈ spans, Boundary source s.start ∧ Boundary source s.stop
  texts : tokens source spans = .ok (spans.map (Span.token source))

theorem covering_layOut {ts : List Token} (full : ∀ t ∈ ts, t.text ≠ []) :
    Covering (Token.concat ts) (Span.layOut 0 ts) := by
  have whole : [] ++ (Token.concat ts ++ []) = Token.concat ts := List.append_nil _
  have tiles := Span.tiles_layOut full 0
  have boundary := boundary_layOut [] ts []
  have texts := tokens_layOut [] ts []
  have back := Span.map_token_layOut [] ts []
  rw [whole] at boundary texts back
  rw [Nat.zero_add] at tiles
  refine ⟨tiles, boundary, ?_⟩
  change tokens _ (Span.layOut (byteSize []) ts) = .ok ((Span.layOut (byteSize []) ts).map _)
  rw [back, texts]

theorem split_full (source : Text) : ∀ t ∈ Token.split source, t.text ≠ [] :=
  (Token.split_eq_iff.1 rfl).2.ne_nil Phrase.table_all

theorem covering_raw (source : Text) : Covering source (Span.raw source) := by
  have covering := covering_layOut (split_full source)
  rwa [Token.split, Token.concat_splitAfter] at covering

theorem covering_scan (source : Text) : Covering source (Span.scan source) := by
  have covering := covering_layOut (Token.merge_full (split_full source))
  rwa [← Token.scan, Token.concat_scan] at covering

/-- At every offset that it can reach the cursor reads on without a failed cut until the end, which
takes no more steps than the source has octets. The spans cover the source, merged or not, and so
the markup and the layout of the source come out whole. -/
theorem cursor_safe (source : Text) :
    (∀ n, (∃ parts, cut source n = .ok parts) ↔ Boundary source n) ∧
    (∀ pos, Boundary source pos →
      (pos = byteSize source → next source pos = .ok none) ∧
      (pos < byteSize source → ∃ s, next source pos = .ok (some s) ∧ s.start = pos ∧
        pos < s.stop ∧ s.stop ≤ byteSize source ∧ Boundary source s.stop)) ∧
    (∃ spans, Yields source 0 spans) ∧
    ∀ spans, Yields source 0 spans →
      spans = Span.raw source ∧ collect spans = Span.scan source ∧
      spans.length ≤ byteSize source ∧
      Covering source spans ∧ Covering source (collect spans) ∧
      render source (collect spans) = .ok (Markup.highlight source) ∧
      ∀ sql, trim sql = source →
        breakClauses source (collect spans) = .ok (Sql.layOut .clauseBreaks sql) := by
  refine ⟨cut_iff source, fun pos => next_advances, ⟨_, yields_raw source⟩, ?_⟩
  intro spans yields
  have raw := yields_unique yields (yields_raw source)
  have merged : collect spans = Span.scan source := by
    rw [raw]
    exact collect_layOut 0 (Token.split source)
  have covering := covering_raw source
  have covering' := covering_scan source
  have texts := covering'.texts
  rw [Span.map_token_scan] at texts
  have short := length_le_of_tiles covering.tiles
  rw [Nat.zero_add] at short
  refine ⟨raw, merged, raw ▸ short, raw ▸ covering, merged ▸ covering', ?_, ?_⟩
  · rw [merged, render, texts]
    rfl
  · rintro sql rfl
    rw [merged, breakClauses, texts]
    rfl

end QueryDesk.Sql.Cursor
