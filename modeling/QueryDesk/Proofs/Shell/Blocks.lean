import QueryDesk.Proofs.Text.Cutting
import QueryDesk.Proofs.Tokens.Reader
import QueryDesk.Shell.Dialogue

/-!
# Lines and blocks

The lines of an input, and how they make blocks: a blank line, a command, or a batch, which goes on
to the first line with which it is complete. `splitLines_eq_iff` says which lines an input has, and
`exists_divides` and `Divides.unique` that there is one way to divide lines into blocks.
-/

set_option autoImplicit false

namespace QueryDesk.Shell

open Text

/-- A text and its lines. Each but the last has a line feed at its end and no other; the last may do
without. -/
inductive Lines : Text → List Text → Prop
  | nil : Lines [] []
  | last {body : Text} : body ≠ [] → '\n' ∉ body → Lines body [body]
  | more {body rest : Text} {lines : List Text} : '\n' ∉ body → Lines rest lines →
      Lines (body ++ '\n' :: rest) ((body ++ ['\n']) :: lines)

theorem splitLines_feed {body : Text} (one : '\n' ∉ body) (rest : Text) :
    splitLines (body ++ '\n' :: rest) = (body ++ ['\n']) :: splitLines rest := by
  induction body with
  | nil => simp [splitLines]
  | cons c cs ih =>
    have other : c ≠ '\n' := fun same => one (same ▸ List.mem_cons_self)
    have tail := ih fun member => one (List.mem_cons_of_mem c member)
    rw [List.cons_append, splitLines, if_neg other, tail]
    rfl

theorem splitLines_last {body : Text} (full : body ≠ []) (one : '\n' ∉ body) :
    splitLines body = [body] := by
  induction body with
  | nil => exact absurd rfl full
  | cons c cs ih =>
    have other : c ≠ '\n' := fun same => one (same ▸ List.mem_cons_self)
    rw [splitLines, if_neg other]
    cases cs with
    | nil => rfl
    | cons d ds =>
      rw [ih (List.cons_ne_nil d ds) fun member => one (List.mem_cons_of_mem c member)]

theorem lines_splitLines (input : Text) : Lines input (splitLines input) := by
  induction size : input.length using Nat.strongRecOn generalizing input with
  | ind n ih =>
    subst size
    rcases Sql.first_or_none '\n' input with ⟨body, rest, rfl, one⟩ | one
    · rw [splitLines_feed one]
      exact .more one (ih _ (by simp; omega) rest rfl)
    · cases input with
      | nil => exact .nil
      | cons c cs =>
        rw [splitLines_last (List.cons_ne_nil c cs) one]
        exact .last (List.cons_ne_nil c cs) one

theorem splitLines_eq_iff (input : Text) (lines : List Text) :
    splitLines input = lines ↔ Lines input lines := by
  constructor
  · rintro rfl
    exact lines_splitLines input
  · intro shape
    induction shape with
    | nil => rfl
    | last full one => exact splitLines_last full one
    | more one _ ih => rw [splitLines_feed one, ih]

theorem Lines.flatten {input : Text} {lines : List Text} (shape : Lines input lines) :
    lines.flatten = input := by
  induction shape with
  | nil => rfl
  | last => exact List.append_nil _
  | more _ _ ih => rw [List.flatten_cons, ih, List.append_assoc]; rfl

theorem Lines.back {input : Text} {front back : List Text} (shape : Lines input (front ++ back)) :
    Lines back.flatten back := by
  induction front generalizing input with
  | nil =>
    rw [List.nil_append] at shape
    rwa [shape.flatten]
  | cons line front ih =>
    rw [List.cons_append] at shape
    generalize whole : front ++ back = lines at shape
    cases shape with
    | last =>
      obtain ⟨-, rfl⟩ := List.append_eq_nil_iff.1 whole
      exact .nil
    | more _ rest => exact ih (whole ▸ rest)

theorem Lines.front {input : Text} {front back : List Text} (shape : Lines input (front ++ back)) :
    Lines front.flatten front := by
  induction front generalizing input with
  | nil => exact .nil
  | cons line front ih =>
    rw [List.cons_append] at shape
    generalize whole : front ++ back = lines at shape
    cases shape with
    | last full one =>
      obtain ⟨rfl, -⟩ := List.append_eq_nil_iff.1 whole
      rw [List.flatten_singleton]
      exact .last full one
    | @more body _ _ one rest =>
      have tail := Lines.more one (ih (whole ▸ rest))
      rwa [List.flatten_cons, List.append_assoc]

/-- The line can begin a batch: it is neither blank nor a command. -/
structure Opens (line : Text) : Prop where
  visible : ¬ AllBlank line
  bare : (trim line).head? ≠ some '.'

/-- The first line can begin a batch. -/
def Begins (lines : List Text) : Prop := ∃ first, lines.head? = some first ∧ Opens first

theorem Begins.append {lines more : List Text} (begins : Begins lines) : Begins (lines ++ more) := by
  obtain ⟨line, head, opens⟩ := begins
  exact ⟨line, by rw [List.head?_append, head]; rfl, opens⟩

theorem Begins.ne_nil {lines : List Text} (begins : Begins lines) : lines ≠ [] := by
  rintro rfl
  obtain ⟨line, head, -⟩ := begins
  cases head

theorem Begins.flatten_ne_nil {lines : List Text} (begins : Begins lines) : lines.flatten ≠ [] := by
  obtain ⟨first, head, opens⟩ := begins
  obtain ⟨rest, rfl⟩ := List.head?_eq_some_iff.1 head
  rw [List.flatten_cons]
  rintro empty
  have none := (List.append_eq_nil_iff.1 empty).1
  exact opens.visible fun c member => by rw [none] at member; cases member

theorem Begins.part {front lines : List Text} (begins : Begins lines) (part : front <+: lines)
    (full : front ≠ []) : Begins front := by
  obtain ⟨rest, rfl⟩ := part
  obtain ⟨line, front, rfl⟩ := List.exists_cons_of_ne_nil full
  exact begins

/-- Lines from one that can begin a batch to the first with which they are complete. -/
structure Batch (lines : List Text) : Prop where
  begins : Begins lines
  complete : Sql.isComplete lines.flatten = true
  first : ∀ front, front <+: lines → front ≠ [] → front ≠ lines →
    Sql.isComplete front.flatten = false

/-- Lines from one that can begin a batch that are never complete. -/
structure Pending (lines : List Text) : Prop where
  begins : Begins lines
  never : ∀ front, front <+: lines → front ≠ [] → Sql.isComplete front.flatten = false

inductive Block where
  | blank (line : Text)
  | command (line : Text)
  | batch (lines : List Text)
  deriving DecidableEq, Repr

namespace Block

def lines : Block → List Text
  | blank line | command line => [line]
  | batch lines => lines

/-- Whether the block is the command to quit. -/
def quits : Block → Bool
  | command line => Command.parse (trim line) == .quit
  | blank _ | batch _ => false

/-- The block is what it is called. -/
inductive Formed : Block → Prop
  | blank {line : Text} : AllBlank line → Formed (blank line)
  | command {line : Text} : (trim line).head? = some '.' → Formed (command line)
  | batch {lines : List Text} : Batch lines → Formed (batch lines)

end Block

/-- Lines made into blocks. -/
structure Division where
  blocks : List Block
  /-- The last batch, if it is not complete. -/
  unfinished : List Text
  /-- The lines after the command to quit. -/
  unread : List Text
  deriving DecidableEq, Repr

/-- The lines are those of the blocks, in order, with what is unfinished and unread after them. The
command to quit ends the blocks, and nothing else leaves lines unread. -/
inductive Divides : List Text → Division → Prop
  | done : Divides [] ⟨[], [], []⟩
  | pending {lines : List Text} : Pending lines → Divides lines ⟨[], lines, []⟩
  | quit {b : Block} {unread : List Text} : b.Formed → b.quits = true →
      Divides (b.lines ++ unread) ⟨[b], [], unread⟩
  | more {b : Block} {lines : List Text} {d : Division} : b.Formed → b.quits = false →
      Divides lines d → Divides (b.lines ++ lines) ⟨b :: d.blocks, d.unfinished, d.unread⟩

theorem Divides.whole {lines : List Text} {d : Division} (divides : Divides lines d) :
    d.blocks.flatMap Block.lines ++ (d.unfinished ++ d.unread) = lines := by
  induction divides with
  | done => rfl
  | pending => simp
  | quit => simp
  | more _ _ _ ih =>
    rw [List.flatMap_cons, List.append_assoc]
    exact congrArg _ ih

theorem Divides.formed {lines : List Text} {d : Division} (divides : Divides lines d) :
    ∀ b ∈ d.blocks, b.Formed := by
  induction divides with
  | done => nofun
  | pending => nofun
  | quit formed => exact List.forall_mem_singleton.2 formed
  | more formed _ _ ih => exact List.forall_mem_cons.2 ⟨formed, ih⟩

/-- The loop of a batch: lines that are not complete so far are never complete, or there is a first
line with which they are. -/
theorem batch_or_pending_from {collected : List Text} (rest : List Text)
    (sofar : ∀ front, front <+: collected → front ≠ [] → Sql.isComplete front.flatten = false) :
    (∀ front, front <+: collected ++ rest → front ≠ [] → Sql.isComplete front.flatten = false) ∨
      ∃ more after, rest = more ++ after ∧ more ≠ [] ∧
        Sql.isComplete (collected ++ more).flatten = true ∧
        ∀ front, front <+: collected ++ more → front ≠ [] → front ≠ collected ++ more →
          Sql.isComplete front.flatten = false := by
  induction rest generalizing collected with
  | nil =>
    rw [List.append_nil]
    exact .inl sofar
  | cons line rest ih =>
    cases complete : Sql.isComplete (collected ++ [line]).flatten with
    | true =>
      refine .inr ⟨[line], rest, rfl, List.cons_ne_nil _ _, complete, ?_⟩
      intro front begins full other
      exact sofar front ((List.prefix_concat_iff.1 begins).resolve_left other) full
    | false =>
      have sofar' : ∀ front, front <+: collected ++ [line] → front ≠ [] →
          Sql.isComplete front.flatten = false := by
        intro front begins full
        rcases List.prefix_concat_iff.1 begins with rfl | begins
        · exact complete
        · exact sofar front begins full
      rcases ih sofar' with never | ⟨more, after, rfl, full, done, first⟩
      · rw [List.append_assoc] at never
        exact .inl never
      · rw [List.append_assoc] at done first
        exact .inr ⟨line :: more, after, rfl, List.cons_ne_nil _ _, done, first⟩

theorem batch_or_pending {lines : List Text} (begins : Begins lines) :
    Pending lines ∨ ∃ batch rest, lines = batch ++ rest ∧ batch ≠ [] ∧ Batch batch := by
  have nothing : ∀ front, front <+: [] → front ≠ [] → Sql.isComplete front.flatten = false :=
    fun front empty full => absurd (List.prefix_nil.1 empty) full
  rcases batch_or_pending_from lines nothing with never | ⟨batch, rest, rfl, full, complete, first⟩
  · exact .inl ⟨begins, never⟩
  · obtain ⟨line, head, opens⟩ := begins
    obtain ⟨line', more, rfl⟩ := List.exists_cons_of_ne_nil full
    exact .inr ⟨line' :: more, rest, rfl, full, ⟨line, head, opens⟩, complete, first⟩

theorem exists_divides (lines : List Text) : ∃ d, Divides lines d := by
  induction size : lines.length using Nat.strongRecOn generalizing lines with
  | ind n ih =>
    subst size
    have next (b : Block) (formed : b.Formed) {rest : List Text}
        (shape : lines = b.lines ++ rest) (full : b.lines ≠ []) : ∃ d, Divides lines d := by
      subst shape
      cases quits : b.quits with
      | true => exact ⟨_, .quit formed quits⟩
      | false =>
        have shorter : rest.length < (b.lines ++ rest).length := by
          have := List.length_pos_iff.2 full
          rw [List.length_append]
          omega
        obtain ⟨d, divides⟩ := ih _ shorter rest rfl
        exact ⟨_, .more formed quits divides⟩
    cases lines with
    | nil => exact ⟨_, .done⟩
    | cons line rest =>
      by_cases blank : AllBlank line
      · exact next (.blank line) (.blank blank) rfl (List.cons_ne_nil _ _)
      · by_cases point : (trim line).head? = some '.'
        · exact next (.command line) (.command point) rfl (List.cons_ne_nil _ _)
        · have begins : Begins (line :: rest) := ⟨line, rfl, blank, point⟩
          rcases batch_or_pending begins with pending | ⟨batch, after, shape, full, formed⟩
          · exact ⟨_, .pending pending⟩
          · exact next (.batch batch) (.batch formed) shape full

theorem Block.Formed.ne_nil {b : Block} (formed : b.Formed) : b.lines ≠ [] := by
  cases formed with
  | blank => exact List.cons_ne_nil _ _
  | command => exact List.cons_ne_nil _ _
  | batch batch => exact batch.begins.ne_nil

/-- A blank line and a command begin no batch. -/
theorem not_begins_cons {line : Text} {rest : List Text} (other : ¬ Opens line) :
    ¬ Begins (line :: rest) := by
  rintro ⟨first, head, opens⟩
  obtain rfl := Option.some.inj head
  exact other opens

theorem not_point_of_allBlank {line : Text} (blank : AllBlank line) :
    (trim line).head? ≠ some '.' := by
  rw [trim_of_allBlank blank]
  nofun

/-- Of two batches at one place neither goes on after the other. -/
theorem Batch.unique {batch batch' after after' : List Text} (formed : Batch batch)
    (formed' : Batch batch') (same : batch ++ after = batch' ++ after') : batch = batch' := by
  have within {short long : List Text} (formed : Batch short) (formed' : Batch long)
      (begins : short <+: long) : short = long := by
    refine Decidable.byContradiction fun other => ?_
    have := formed'.first short begins formed.begins.ne_nil other
    rw [formed.complete] at this
    cases this
  rcases List.prefix_or_prefix_of_prefix (List.prefix_append batch after)
    (same ▸ List.prefix_append batch' after') with shorter | longer
  · exact within formed formed' shorter
  · exact (within formed' formed longer).symm

/-- Lines that are never complete begin with no block. -/
theorem Pending.not_formed {b : Block} {after : List Text} (pending : Pending (b.lines ++ after)) :
    ¬ b.Formed := by
  intro formed
  cases formed with
  | blank blank => exact not_begins_cons (fun opens => opens.visible blank) pending.begins
  | command point => exact not_begins_cons (fun opens => opens.bare point) pending.begins
  | @batch lines batch =>
    have := pending.never lines (List.prefix_append lines after) batch.begins.ne_nil
    rw [batch.complete] at this
    cases this

/-- Only a batch begins as a batch does. -/
theorem Block.Formed.batch_of_begins {b : Block} {after : List Text} (formed : b.Formed)
    (begins : Begins (b.lines ++ after)) : ∃ lines, b = .batch lines ∧ Batch lines := by
  cases formed with
  | blank blank => exact absurd begins (not_begins_cons fun opens => opens.visible blank)
  | command point => exact absurd begins (not_begins_cons fun opens => opens.bare point)
  | batch batch => exact ⟨_, rfl, batch⟩

theorem Block.Formed.eq_batch {b : Block} {after after' lines : List Text} (formed : b.Formed)
    (batch : Batch lines) (same : b.lines ++ after = lines ++ after') : b = .batch lines := by
  obtain ⟨lines', rfl, batch'⟩ := formed.batch_of_begins (same ▸ batch.begins.append)
  rw [batch'.unique batch same]

theorem Block.Formed.unique {b b' : Block} {after after' : List Text} (formed : b.Formed)
    (formed' : b'.Formed) (same : b.lines ++ after = b'.lines ++ after') : b = b' := by
  cases formed' with
  | batch batch => exact formed.eq_batch batch same
  | @blank line' blank =>
    cases formed with
    | blank => rw [(List.cons.inj same).1]
    | command point => exact absurd ((List.cons.inj same).1 ▸ point) (not_point_of_allBlank blank)
    | batch batch => exact ((Block.Formed.blank blank).eq_batch batch same.symm).symm
  | @command line' point =>
    cases formed with
    | blank blank => exact absurd ((List.cons.inj same).1 ▸ point) (not_point_of_allBlank blank)
    | command => rw [(List.cons.inj same).1]
    | batch batch => exact ((Block.Formed.command point).eq_batch batch same.symm).symm

/-- What a division begins with, where a block can be seen. -/
theorem Divides.of_formed {b : Block} {after : List Text} {d : Division} (formed : b.Formed)
    (divides : Divides (b.lines ++ after) d) :
    b.quits = true ∧ d = ⟨[b], [], after⟩ ∨
      b.quits = false ∧ ∃ d', Divides after d' ∧ d = ⟨b :: d'.blocks, d'.unfinished, d'.unread⟩ := by
  generalize whole : b.lines ++ after = lines at divides
  cases divides with
  | done => exact absurd (List.append_eq_nil_iff.1 whole).1 formed.ne_nil
  | pending pending =>
    subst whole
    exact absurd formed pending.not_formed
  | quit formed' quits =>
    obtain rfl := formed.unique formed' whole
    exact .inl ⟨quits, by rw [List.append_cancel_left whole]⟩
  | @more _ rest d' formed' stays divides =>
    obtain rfl := formed.unique formed' whole
    exact .inr ⟨stays, d', List.append_cancel_left whole ▸ divides, rfl⟩

/-- Lines are divided into blocks in one way only. -/
theorem Divides.unique {lines : List Text} {d d' : Division} (divides : Divides lines d)
    (divides' : Divides lines d') : d = d' := by
  induction divides generalizing d' with
  | done =>
    generalize none : ([] : List Text) = lines at divides'
    cases divides' with
    | done => rfl
    | pending pending => exact absurd none.symm pending.begins.ne_nil
    | quit formed => exact absurd (List.append_eq_nil_iff.1 none.symm).1 formed.ne_nil
    | more formed => exact absurd (List.append_eq_nil_iff.1 none.symm).1 formed.ne_nil
  | pending pending =>
    cases divides' with
    | done => exact absurd rfl pending.begins.ne_nil
    | pending => rfl
    | quit formed => exact absurd formed pending.not_formed
    | more formed => exact absurd formed pending.not_formed
  | quit formed quits =>
    rcases divides'.of_formed formed with ⟨-, rfl⟩ | ⟨stays, -⟩
    · rfl
    · rw [quits] at stays
      cases stays
  | more formed stays _ ih =>
    rcases divides'.of_formed formed with ⟨quits, -⟩ | ⟨-, d'', divides'', rfl⟩
    · rw [quits] at stays
      cases stays
    · rw [ih divides'']

end QueryDesk.Shell
