import Mathlib.Data.List.Chain
import QueryDesk.Proofs.Cursor.Safety
import QueryDesk.Proofs.Markup.Decoding
import QueryDesk.Proofs.Tokens.Semicolons

/-!
# What merging keeps

Merging makes one span of every run of plain spans and leaves all others as they are
(`merged_layOut`). So the merged spans are known from the spans that are read: those that are not
plain stay, and there is a plain one for each run that no plain span continues. Neither the markup
of a source nor the test for a complete statement can tell whether spans were merged.
-/

set_option autoImplicit false

namespace QueryDesk.Sql

open Text

namespace Span

def isPlain (s : Span) : Bool := s.kind == .plain

/-- Plain spans next to each other, with no plain span before or after them. -/
structure PlainRun (spans run : List Span) : Prop where
  full : run ≠ []
  plain : ∀ s ∈ run, s.isPlain = true
  place : ∃ before after, spans = before ++ (run ++ after) ∧
    before.getLast?.any isPlain = false ∧ after.head?.any isPlain = false

/-- Spans, and the same with one span for each run of plain ones, from its start to its end. -/
inductive Merged : List Span → List Span → Prop
  | nil : Merged [] []
  | run {run rest merged : List Span} {start stop : Nat} : run ≠ [] →
      (∀ s ∈ run, s.isPlain = true) → Tiles stop start run → rest.head?.any isPlain = false →
      Merged rest merged → Merged (run ++ rest) (⟨.plain, start, stop⟩ :: merged)
  | single {s : Span} {rest merged : List Span} : s.isPlain = false → Merged rest merged →
      Merged (s :: rest) (s :: merged)

variable {spans merged : List Span}

theorem head?_plain {run : List Span} (full : run ≠ []) (plain : ∀ s ∈ run, s.isPlain = true)
    (rest : List Span) : (run ++ rest).head?.any isPlain = true := by
  obtain ⟨s, ss, rfl⟩ := List.exists_cons_of_ne_nil full
  exact plain s List.mem_cons_self

theorem Merged.head?_eq (runs : Merged spans merged) :
    merged.head?.any isPlain = spans.head?.any isPlain := by
  cases runs with
  | nil => rfl
  | run full plain => exact (head?_plain full plain _).symm
  | single => rfl

/-- A plain span in front stays by itself, or is the start of the run that follows it. -/
theorem Merged.cons_plain {start middle : Nat} (forward : start < middle)
    (runs : Merged spans merged) :
    (merged.head?.any isPlain = false →
      Merged (⟨.plain, start, middle⟩ :: spans) (⟨.plain, start, middle⟩ :: merged)) ∧
    ∀ stop more, merged = ⟨.plain, middle, stop⟩ :: more →
      Merged (⟨.plain, start, middle⟩ :: spans) (⟨.plain, start, stop⟩ :: more) := by
  constructor
  · intro apart
    rw [runs.head?_eq] at apart
    change Merged ([⟨.plain, start, middle⟩] ++ spans) _
    exact .run (List.cons_ne_nil _ _) (List.forall_mem_singleton.2 rfl)
      ⟨rfl, forward, rfl⟩ apart runs
  · rintro stop more rfl
    cases runs with
    | run full plain tiles apart more =>
      rw [← List.cons_append]
      exact .run (List.cons_ne_nil _ _) (List.forall_mem_cons.2 ⟨rfl, plain⟩)
        ⟨rfl, forward, tiles⟩ apart more
    | single other => cases other

theorem merged_layOut {tokens : List Token} (full : ∀ t ∈ tokens, t.text ≠ []) (start : Nat) :
    Merged (layOut start tokens) (layOut start (Token.merge tokens)) := by
  induction tokens generalizing start with
  | nil => exact .nil
  | cons t ts ih =>
    obtain ⟨full, others⟩ := List.forall_mem_cons.1 full
    have tail := ih others (start + byteSize t.text)
    have forward : start < start + byteSize t.text := Nat.lt_add_of_pos_right (byteSize_pos full)
    obtain ⟨kind, text⟩ := t
    by_cases plain : kind = .plain
    case neg =>
      rw [Token.merge_cons_of_kind plain]
      exact .single (beq_eq_false_iff_ne.2 plain) tail
    case pos =>
      subst plain
      obtain ⟨alone, joined⟩ := tail.cons_plain forward
      rw [Token.merge]
      cases shape : Token.merge ts with
      | nil =>
        rw [shape] at alone
        exact alone rfl
      | cons u us =>
        rw [shape] at alone joined
        obtain ⟨kind', text'⟩ := u
        by_cases plain' : kind' = .plain
        · subst plain'
          have one := joined _ _ rfl
          rw [Nat.add_assoc, ← byteSize_append] at one
          rw [Token.joinPlain_plain rfl rfl]
          exact one
        · rw [Token.joinPlain_apart fun both => plain' both.2]
          exact alone (beq_eq_false_iff_ne.2 plain')

theorem Merged.isChain (runs : Merged spans merged) :
    merged.IsChain fun s u => ¬ (s.isPlain = true ∧ u.isPlain = true) := by
  induction runs with
  | nil => exact .nil
  | run full plain tiles apart tail ih =>
    refine List.isChain_cons.2 ⟨?_, ih⟩
    rintro u first ⟨-, plain'⟩
    rw [← tail.head?_eq, first] at apart
    exact Bool.false_ne_true (apart.symm.trans plain')
  | single other tail ih =>
    refine List.isChain_cons.2 ⟨?_, ih⟩
    rintro u - ⟨plain, -⟩
    exact Bool.false_ne_true (other.symm.trans plain)

theorem Merged.filter_eq (runs : Merged spans merged) :
    merged.filter (!·.isPlain) = spans.filter (!·.isPlain) := by
  induction runs with
  | nil => rfl
  | @run run rest merged start stop full plain tiles apart tail ih =>
    have none : run.filter (!·.isPlain) = [] :=
      List.filter_eq_nil_iff.2 fun s member => by simp [plain s member]
    rw [List.filter_append, none, List.nil_append, ← ih]
    rfl
  | single other tail ih =>
    rw [List.filter_cons_of_pos (by simp [other]), List.filter_cons_of_pos (by simp [other]), ih]

/-- A run further on is a run, unless the spans in front are plain and lead into it. -/
theorem PlainRun.after {front run : List Span} (later : PlainRun spans run)
    (apart : front.getLast?.any isPlain = false ∨ spans.head?.any isPlain = false) :
    PlainRun (front ++ spans) run := by
  obtain ⟨before, after, rfl, front', back⟩ := later.place
  refine ⟨later.full, later.plain, front ++ before, after, (List.append_assoc ..).symm, ?_, back⟩
  cases before with
  | nil =>
    have leads := head?_plain later.full later.plain after
    rw [List.append_nil]
    exact apart.resolve_right fun none => Bool.false_ne_true (none.symm.trans leads)
  | cons s ss => rwa [List.getLast?_append_of_ne_nil _ (List.cons_ne_nil s ss)]

theorem Merged.exists_run (runs : Merged spans merged) {s : Span} (plain : s.isPlain = true)
    (member : s ∈ merged) : ∃ run, PlainRun spans run ∧ Tiles s.stop s.start run := by
  induction runs with
  | nil => cases member
  | @run run rest merged start stop full inside tiles apart tail ih =>
    rcases List.mem_cons.1 member with rfl | member
    · exact ⟨run, ⟨full, inside, [], rest, rfl, rfl, apart⟩, tiles⟩
    · obtain ⟨later, here, tiles'⟩ := ih member
      exact ⟨later, here.after (.inr apart), tiles'⟩
  | @single u rest merged other tail ih =>
    rcases List.mem_cons.1 member with rfl | member
    · exact absurd plain (by simp [other])
    · obtain ⟨later, here, tiles'⟩ := ih member
      have moved : PlainRun ([u] ++ rest) later := here.after (.inl other)
      exact ⟨later, moved, tiles'⟩

theorem Tiles.ends {run : List Span} {start stop start' stop' : Nat} (full : run ≠ [])
    (tiles : Tiles stop start run) (tiles' : Tiles stop' start' run) :
    start = start' ∧ stop = stop' := by
  induction run generalizing start start' with
  | nil => exact absurd rfl full
  | cons s ss ih =>
    obtain ⟨rfl, -, rest⟩ := tiles
    obtain ⟨rfl, -, rest'⟩ := tiles'
    refine ⟨rfl, ?_⟩
    cases ss with
    | nil => exact (Eq.symm rest).trans rest'
    | cons u us => exact (ih (List.cons_ne_nil u us) rest rest').2

/-- The run that begins a list with a run is that run, and every other one comes later. -/
theorem PlainRun.first_or_later {front rest run : List Span}
    (inside : ∀ s ∈ front, s.isPlain = true) (apart : rest.head?.any isPlain = false)
    (here : PlainRun (front ++ rest) run) : run = front ∨ PlainRun rest run := by
  obtain ⟨full, plain, before, after, shape, lead, stops⟩ := here
  rcases List.append_eq_append_iff.1 shape with ⟨between, rfl, rfl⟩ | ⟨between, rfl, begins⟩
  · refine .inr ⟨full, plain, between, after, rfl, ?_, stops⟩
    cases between with
    | nil => rfl
    | cons s ss => rwa [List.getLast?_append_of_ne_nil _ (List.cons_ne_nil s ss)] at lead
  · -- plain spans cannot stand before a run
    have none : before = [] := by
      by_contra some
      rw [List.getLast?_eq_some_getLast some] at lead
      have last := inside _ (List.mem_append_left _ (List.getLast_mem some))
      exact Bool.false_ne_true (lead.symm.trans last)
    subst none
    exact .inl (run_unique begins plain stops inside apart).1

theorem Merged.mem_of_run (runs : Merged spans merged) {run : List Span} {start stop : Nat}
    (here : PlainRun spans run) (tiles : Tiles stop start run) :
    ⟨.plain, start, stop⟩ ∈ merged := by
  induction runs with
  | nil =>
    obtain ⟨before, after, shape, -⟩ := here.place
    exact absurd (List.append_eq_nil_iff.1 (List.append_eq_nil_iff.1 shape.symm).2).1 here.full
  | run full inside tiles' apart tail ih =>
    rcases here.first_or_later inside apart with rfl | later
    · obtain ⟨rfl, rfl⟩ := tiles.ends here.full tiles'
      exact List.mem_cons_self
    · exact List.mem_cons_of_mem _ (ih later)
  | @single u rest merged other tail ih =>
    refine List.mem_cons_of_mem _ (ih ?_)
    obtain ⟨full, plain, before, after, shape, lead, stops⟩ := here
    cases before with
    | nil =>
      have begins := head?_plain full plain after
      rw [← List.nil_append (run ++ after), ← shape] at begins
      exact absurd begins (by simp [other])
    | cons v vs =>
      obtain ⟨rfl, rfl⟩ := List.cons.inj shape
      refine ⟨full, plain, vs, after, rfl, ?_, stops⟩
      cases vs with
      | nil => rfl
      | cons w ws => rwa [List.getLast?_cons_cons] at lead

/-- The plain spans after merging are the runs of plain spans before. -/
theorem Merged.mem_iff (runs : Merged spans merged) {s : Span} (plain : s.isPlain = true) :
    s ∈ merged ↔ ∃ run, PlainRun spans run ∧ Tiles s.stop s.start run := by
  refine ⟨runs.exists_run plain, fun ⟨_, here, tiles⟩ => ?_⟩
  obtain ⟨kind, start, stop⟩ := s
  obtain rfl : kind = .plain := beq_iff_eq.1 plain
  exact runs.mem_of_run here tiles

theorem merged_scan (source : Text) : Merged (raw source) (scan source) :=
  merged_layOut (Cursor.split_full source) 0

end Span

namespace Markup

theorem flatMap_element_merge (ts : List Token) :
    (Token.merge ts).flatMap (fun t => element t.kind t.text) =
      ts.flatMap fun t => element t.kind t.text := by
  have join := Token.joinPlain_congr (·.flatMap fun t => element t.kind t.text) fun a b us => by
    have plain (text : Text) : element .plain text = escape text := rfl
    simp only [List.flatMap_cons, plain, escape_append, List.append_assoc]
  induction ts with
  | nil => rfl
  | cons t ts ih => rw [Token.merge, join, List.flatMap_cons, List.flatMap_cons, ih]

theorem render_raw (source : Text) : render source (Span.raw source) = highlight source := by
  have tokens := flatMap_element_merge (Token.split source)
  rw [← Span.map_token_raw, List.flatMap_map, Span.map_token_raw] at tokens
  exact tokens.symm

end Markup

namespace Span

/-- Nothing is lost by merging. No two merged spans that meet are plain, those that are not plain
are the spans read, and the plain ones are the runs of plain spans, each from end to end. Markup
and completeness are the same from the spans read and from the merged ones. -/
theorem merging_lossless (source : Text) :
    Cursor.Yields source 0 (raw source) ∧ Cursor.collect (raw source) = scan source ∧
    (scan source).IsChain (fun s u => ¬ (s.isPlain = true ∧ u.isPlain = true)) ∧
    (scan source).filter (!·.isPlain) = (raw source).filter (!·.isPlain) ∧
    (∀ s, s.isPlain = true → (s ∈ scan source ↔
      ∃ run, PlainRun (raw source) run ∧ Tiles s.stop s.start run)) ∧
    Markup.render source (raw source) = Markup.render source (scan source) ∧
    Markup.render source (scan source) = Markup.highlight source ∧
    endsInSemicolon ((raw source).map (token source)) = isComplete source ∧
    endsInSemicolon ((scan source).map (token source)) = isComplete source := by
  have runs := merged_scan source
  have highlighted := Markup.highlight_eq_render source
  refine ⟨Cursor.yields_raw source, Cursor.collect_layOut 0 _, runs.isChain, runs.filter_eq,
    fun s => runs.mem_iff, ?_, highlighted.symm, ?_, ?_⟩
  · rw [Markup.render_raw, highlighted]
  · rw [map_token_raw, isComplete_eq]
  · rw [map_token_scan, isComplete]

end Span

end QueryDesk.Sql
