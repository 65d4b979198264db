import QueryDesk.Proofs.Shell.Blocks
import QueryDesk.Proofs.Tokens.Completeness

/-!
# From prompt to prompt

The dialogue as the list of its prompts: what the desk is like at each, and the line taken there. The
blocks of the lines say what it must be. Between the lines of a batch only the buffer changes; a
batch that ends is run once, as one text; a command is carried out where nothing is collected.

* `prompts_division`: the prompts of a dialogue are those that its blocks call for.
* `ran_division`: what is run are the batches, in order.
* `takeAll_divided`: all of this for every input, together with what a buffer can hold at a prompt.
-/

set_option autoImplicit false

namespace QueryDesk.Shell

open Text

variable {σ : Type}

/-- A prompt: the desk as it is there, and the line that is taken. There is none at the end. -/
structure Prompt (σ : Type) where
  desk : Desk σ
  line : Option Text
  deriving DecidableEq, Repr

namespace Prompt

/-- What is written at a prompt and after it, up to the next one. -/
def shown (r : Renderings) (e : Engine σ) (files : FileAccess) (ending : Ending) (p : Prompt σ) :
    List Output :=
  .out p.desk.promptText :: match p.line with
    | some line => (p.desk.take r e files line).outputs
    | none => ending.outputs

/-- What the line at a prompt makes run. -/
def ran? (p : Prompt σ) : Option Text :=
  match p.line.map (Desk.read p.desk.buffer) with
  | some (.batch sql) => some sql
  | _ => none

end Prompt

namespace Desk

/-- The prompts while lines are taken. -/
def prompts (r : Renderings) (e : Engine σ) (files : FileAccess) (d : Desk σ) :
    List Text → List (Prompt σ)
  | [] => [⟨d, none⟩]
  | line :: lines =>
    let turn := d.take r e files line
    ⟨d, some line⟩ :: if turn.quits then [] else turn.desk.prompts r e files lines

theorem takeAll_eq (r : Renderings) (e : Engine σ) (files : FileAccess) (ending : Ending)
    (d : Desk σ) (lines : List Text) : d.takeAll r e files ending lines =
      (d.prompts r e files lines).flatMap (Prompt.shown r e files ending) := by
  induction lines generalizing d with
  | nil => simp [takeAll, prompts, Prompt.shown]
  | cons line lines ih =>
    rw [takeAll, prompts, List.flatMap_cons, ih]
    cases (d.take r e files line).quits <;> rfl

end Desk

/-- The prompts at which lines are taken one after another and only collected. -/
def collecting (s : Session σ) (echo : Bool) (buffer : Text) : List Text → List (Prompt σ)
  | [] => []
  | line :: lines => ⟨⟨s, buffer, echo⟩, some line⟩ :: collecting s echo (buffer ++ line) lines

namespace Block

/-- The prompts at which the lines of a block are taken. -/
def prompts (s : Session σ) (echo : Bool) (b : Block) : List (Prompt σ) :=
  collecting s echo [] b.lines

/-- The session after a block. A batch is run once. -/
def next (r : Renderings) (e : Engine σ) (files : FileAccess) (s : Session σ) (echo : Bool) :
    Block → Session σ
  | blank _ => s
  | command line => (Desk.command r e files ⟨s, [], echo⟩ (.parse (trim line))).1.session
  | batch lines => (Session.run e (trim lines.flatten) s).2

/-- The text that is run for a block. -/
def run? : Block → Option Text
  | batch lines => some (trim lines.flatten)
  | blank _ | command _ => none

end Block

namespace Division

/-- The prompts for blocks and the lines after them, up to the end of the input or the command to
quit. -/
def promptsFrom (r : Renderings) (e : Engine σ) (files : FileAccess) (echo : Bool)
    (unfinished : List Text) : Session σ → List Block → List (Prompt σ)
  | s, [] => collecting s echo [] unfinished ++ [⟨⟨s, unfinished.flatten, echo⟩, none⟩]
  | s, b :: blocks => b.prompts s echo ++
      if b.quits then []
      else promptsFrom r e files echo unfinished (b.next r e files s echo) blocks

def prompts (r : Renderings) (e : Engine σ) (files : FileAccess) (echo : Bool) (s : Session σ)
    (d : Division) : List (Prompt σ) :=
  promptsFrom r e files echo d.unfinished s d.blocks

/-- The texts that are run, in order. -/
def batches (d : Division) : List Text := d.blocks.filterMap Block.run?

end Division

theorem read_of_allBlank {line : Text} (blank : AllBlank line) : Desk.read [] line = .skip := by
  rw [Desk.read, trim_of_allBlank blank]
  rfl

theorem read_of_point {line : Text} (point : (trim line).head? = some '.') :
    Desk.read [] line = .command (.parse (trim line)) := by
  have full : (trim line).isEmpty = false := by
    cases shape : trim line with
    | nil =>
      rw [shape] at point
      cases point
    | cons c cs => rfl
  simp [Desk.read, full, point]

/-- A line that goes on with a batch, or begins one. -/
theorem read_of_opens {buffer line : Text} (opens : buffer = [] → Opens line) :
    Desk.read buffer line = if Sql.isComplete (buffer ++ line) then .batch (trim (buffer ++ line))
      else .collect (buffer ++ line) := by
  cases buffer with
  | cons c cs => rfl
  | nil =>
    obtain ⟨visible, bare⟩ := opens rfl
    have full : (trim line).isEmpty = false := by
      rw [List.isEmpty_eq_false_iff]
      exact fun empty => visible ((trim_eq_nil_iff line).1 empty)
    simp [Desk.read, full, bare]

/-- Each of the lines is collected when its turn comes. -/
def Collects : Text → List Text → Prop
  | _, [] => True
  | buffer, line :: lines =>
    Desk.read buffer line = .collect (buffer ++ line) ∧ Collects (buffer ++ line) lines

theorem collects_of_never {buffer : Text} {lines : List Text}
    (opens : buffer = [] → lines ≠ [] → Begins lines)
    (never : ∀ part, part <+: lines → part ≠ [] →
      Sql.isComplete (buffer ++ part.flatten) = false) : Collects buffer lines := by
  induction lines generalizing buffer with
  | nil => trivial
  | cons line lines ih =>
    have opens' (empty : buffer = []) : Opens line := by
      obtain ⟨first, head, here⟩ := opens empty (List.cons_ne_nil _ _)
      exact Option.some.inj head ▸ here
    have incomplete : Sql.isComplete (buffer ++ line) = false := by
      simpa using never [line] ⟨lines, rfl⟩ (List.cons_ne_nil _ _)
    refine ⟨by rw [read_of_opens opens', incomplete]; rfl, ih (fun empty => ?_) ?_⟩
    · -- The buffer holds a line that is not blank.
      obtain ⟨rfl, rfl⟩ := List.append_eq_nil_iff.1 empty
      exact absurd (fun c none => nomatch none) (opens' rfl).visible
    · intro part begins full
      have := never (line :: part) (List.prefix_cons_inj line |>.2 begins) (List.cons_ne_nil _ _)
      rwa [List.flatten_cons, ← List.append_assoc] at this

/-- All lines of a batch but the last are collected, and the last makes it run. -/
theorem Batch.reads {lines : List Text} (batch : Batch lines) : ∃ front last,
    lines = front ++ [last] ∧ Collects [] front ∧
      Desk.read front.flatten last = .batch (trim lines.flatten) := by
  rcases List.eq_nil_or_concat lines with rfl | ⟨front, last, shape⟩
  · exact absurd rfl batch.begins.ne_nil
  · rw [List.concat_eq_append] at shape
    subst shape
    have whole : (front ++ [last]).flatten = front.flatten ++ last := by simp
    refine ⟨front, last, rfl, collects_of_never (fun _ full => ?_) fun part begins full => ?_, ?_⟩
    · exact batch.begins.part (List.prefix_append _ _) full
    · refine batch.first part (begins.trans (List.prefix_append _ _)) full fun same => ?_
      have := begins.length_le
      rw [same, List.length_append, List.length_singleton] at this
      omega
    · have opens (empty : front.flatten = []) : Opens last := by
        cases front with
        | nil =>
          obtain ⟨first, head, here⟩ := batch.begins
          exact Option.some.inj head ▸ here
        | cons line front =>
          exact absurd empty (Begins.flatten_ne_nil
            (batch.begins.part (List.prefix_append _ _) (List.cons_ne_nil _ _)))
      have complete := batch.complete
      rw [whole] at complete ⊢
      rw [read_of_opens opens, complete]
      rfl

variable (r : Renderings) (e : Engine σ) (files : FileAccess) (s : Session σ) (echo : Bool)

theorem collecting_append (buffer : Text) (front back : List Text) :
    collecting s echo buffer (front ++ back) =
      collecting s echo buffer front ++ collecting s echo (buffer ++ front.flatten) back := by
  induction front generalizing buffer with
  | nil => simp [collecting]
  | cons line front ih => simp [collecting, ih]

theorem prompts_collecting {buffer : Text} {front : List Text} (collects : Collects buffer front)
    (lines : List Text) : Desk.prompts r e files ⟨s, buffer, echo⟩ (front ++ lines) =
      collecting s echo buffer front ++
        Desk.prompts r e files ⟨s, buffer ++ front.flatten, echo⟩ lines := by
  induction front generalizing buffer with
  | nil => simp [collecting]
  | cons line front ih =>
    have turn : Desk.take r e files ⟨s, buffer, echo⟩ line =
        ⟨⟨s, buffer ++ line, echo⟩, [], false⟩ := by
      simp only [Desk.take, collects.1]
    rw [List.cons_append, Desk.prompts, turn, collecting, ih collects.2, List.flatten_cons,
      List.append_assoc]
    rfl

/-- A command leaves what is collected as it is, and whether SQL is shown. -/
theorem command_desk (buffer : Text) (c : Command) :
    (Desk.command r e files ⟨s, buffer, echo⟩ c).1 =
      ⟨(Desk.command r e files ⟨s, buffer, echo⟩ c).1.session, buffer, echo⟩ := by
  cases c with
  | importFile request => cases request <;> rfl
  | _ => rfl

/-- The prompts of a block, and those of the desk that it leaves if it does not quit. -/
theorem prompts_formed {b : Block} (formed : b.Formed) (lines : List Text) :
    Desk.prompts r e files ⟨s, [], echo⟩ (b.lines ++ lines) = b.prompts s echo ++
      if b.quits then [] else Desk.prompts r e files ⟨b.next r e files s echo, [], echo⟩ lines := by
  cases formed with
  | @blank line blank =>
    have turn : Desk.take r e files ⟨s, [], echo⟩ line = ⟨⟨s, [], echo⟩, [], false⟩ := by
      simp only [Desk.take, read_of_allBlank blank]
    change Desk.prompts r e files _ (line :: lines) = _
    rw [Desk.prompts, turn]
    rfl
  | @command line point =>
    have turn : Desk.take r e files ⟨s, [], echo⟩ line =
        ⟨⟨(Block.command line).next r e files s echo, [], echo⟩,
          (Desk.command r e files ⟨s, [], echo⟩ (.parse (trim line))).2,
          (Block.command line).quits⟩ := by
      simp only [Desk.take, read_of_point point]
      rw [command_desk]
      rfl
    change Desk.prompts r e files _ (line :: lines) = _
    rw [Desk.prompts, turn]
    rfl
  | @batch batch formed =>
    obtain ⟨front, last, shape, collects, runs⟩ := formed.reads
    have turn : (Desk.take r e files ⟨s, front.flatten, echo⟩ last).desk =
          ⟨(Block.batch batch).next r e files s echo, [], echo⟩ ∧
        (Desk.take r e files ⟨s, front.flatten, echo⟩ last).quits = false := by
      rw [Desk.take, runs]
      exact ⟨rfl, rfl⟩
    have before : (Block.batch batch).prompts s echo =
        collecting s echo [] front ++ [⟨⟨s, front.flatten, echo⟩, some last⟩] := by
      rw [Block.prompts, Block.lines, shape, collecting_append]
      rfl
    have whole : (Block.batch batch).lines ++ lines = front ++ last :: lines := by
      rw [Block.lines, shape, List.append_assoc]
      rfl
    rw [whole, before, prompts_collecting r e files s echo collects, List.nil_append, Desk.prompts]
    simp only [turn]
    rw [List.append_assoc]
    rfl

theorem prompts_division {lines : List Text} {d : Division} (divides : Divides lines d) :
    Desk.prompts r e files ⟨s, [], echo⟩ lines = d.prompts r e files echo s := by
  induction divides generalizing s with
  | done => rfl
  | @pending lines pending =>
    have collects : Collects [] lines := collects_of_never (fun _ _ => pending.begins) pending.never
    have whole := prompts_collecting r e files s echo collects []
    rwa [List.append_nil] at whole
  | quit formed quits =>
    rw [prompts_formed r e files s echo formed, if_pos quits, Division.prompts, Division.promptsFrom,
      if_pos quits]
  | more formed stays _ ih =>
    have goes_on : ¬ Block.quits _ = true := Bool.eq_false_iff.1 stays
    rw [prompts_formed r e files s echo formed, if_neg goes_on, ih, Division.prompts,
      Division.prompts, Division.promptsFrom, if_neg goes_on]

theorem ran_collecting {buffer : Text} {lines : List Text} (collects : Collects buffer lines) :
    (collecting s echo buffer lines).filterMap Prompt.ran? = [] := by
  induction lines generalizing buffer with
  | nil => rfl
  | cons line lines ih =>
    have none : Prompt.ran? (⟨⟨s, buffer, echo⟩, some line⟩ : Prompt σ) = none := by
      simp only [Prompt.ran?, Option.map_some, collects.1]
    rw [collecting, List.filterMap_cons, none]
    exact ih collects.2

theorem ran_formed {b : Block} (formed : b.Formed) :
    (b.prompts s echo).filterMap Prompt.ran? = b.run?.toList := by
  cases formed with
  | @blank line blank =>
    have none : Prompt.ran? (⟨⟨s, [], echo⟩, some line⟩ : Prompt σ) = none := by
      simp only [Prompt.ran?, Option.map_some, read_of_allBlank blank]
    rw [Block.prompts, Block.lines, collecting, List.filterMap_cons, none]
    rfl
  | @command line point =>
    have none : Prompt.ran? (⟨⟨s, [], echo⟩, some line⟩ : Prompt σ) = none := by
      simp only [Prompt.ran?, Option.map_some, read_of_point point]
    rw [Block.prompts, Block.lines, collecting, List.filterMap_cons, none]
    rfl
  | @batch batch formed =>
    obtain ⟨front, last, shape, collects, runs⟩ := formed.reads
    have some : Prompt.ran? (⟨⟨s, front.flatten, echo⟩, some last⟩ : Prompt σ) =
        some (trim batch.flatten) := by
      simp only [Prompt.ran?, Option.map_some, runs]
    rw [Block.prompts, Block.lines, shape, collecting_append, List.filterMap_append,
      ran_collecting s echo collects, List.nil_append, List.nil_append, collecting,
      List.filterMap_cons, some, ← shape]
    rfl

theorem ran_division {lines : List Text} {d : Division} (divides : Divides lines d) :
    (d.prompts r e files echo s).filterMap Prompt.ran? = d.batches := by
  induction divides generalizing s with
  | done => rfl
  | @pending lines pending =>
    have collects : Collects [] lines := collects_of_never (fun _ _ => pending.begins) pending.never
    rw [Division.prompts, Division.promptsFrom, List.filterMap_append,
      ran_collecting s echo collects]
    rfl
  | @quit b unread formed quits =>
    rw [Division.prompts, Division.promptsFrom, if_pos quits, List.append_nil,
      ran_formed s echo formed, Division.batches, List.filterMap_cons]
    cases b.run? <;> rfl
  | @more b lines d formed stays _ ih =>
    rw [Division.prompts, Division.promptsFrom, if_neg (Bool.eq_false_iff.1 stays),
      List.filterMap_append, ran_formed s echo formed, Division.batches, List.filterMap_cons]
    have rest := ih (b.next r e files s echo)
    rw [Division.prompts, Division.batches] at rest
    rw [rest]
    cases b.run? <;> rfl

theorem isComplete_batches {lines : List Text} {d : Division} (divides : Divides lines d) :
    ∀ sql ∈ d.batches, Sql.isComplete sql = true := by
  intro sql member
  obtain ⟨b, inside, runs⟩ := List.mem_filterMap.1 member
  cases divides.formed b inside with
  | blank => cases runs
  | command => cases runs
  | batch batch =>
    obtain rfl := Option.some.inj runs
    rw [Sql.isComplete_trim]
    exact batch.complete

/-- What is collected so far is the beginning of a batch and needs more lines. -/
structure Waiting (buffer : Text) : Prop where
  visible : ¬ AllBlank buffer
  incomplete : Sql.isComplete buffer = false
  begins : ∃ lines, Lines buffer lines ∧ Begins lines

theorem waiting_flatten {part : List Text} (shape : Lines part.flatten part) (begins : Begins part)
    (incomplete : Sql.isComplete part.flatten = false) : Waiting part.flatten := by
  refine ⟨fun blank => ?_, incomplete, part, shape, begins⟩
  obtain ⟨first, head, opens⟩ := begins
  obtain ⟨rest, rfl⟩ := List.head?_eq_some_iff.1 head
  exact opens.visible fun c member => blank c (List.mem_append_left _ member)

theorem buffer_collecting {buffer : Text} {lines : List Text} :
    ∀ p ∈ collecting s echo buffer lines,
      ∃ part, part <+: lines ∧ part ≠ lines ∧ p.desk.buffer = buffer ++ part.flatten := by
  induction lines generalizing buffer with
  | nil => nofun
  | cons line lines ih =>
    intro p member
    rcases List.mem_cons.1 member with rfl | member
    · exact ⟨[], List.nil_prefix, (List.cons_ne_nil _ _).symm, (List.append_nil _).symm⟩
    · obtain ⟨part, begins, other, held⟩ := ih p member
      exact ⟨line :: part, (List.prefix_cons_inj line).2 begins,
        fun same => other (List.cons.inj same).2, by rw [held, List.flatten_cons,
          List.append_assoc]⟩

/-- A buffer at a prompt of lines that are not complete before the last. -/
theorem waiting_collecting {lines : List Text} (shape : Lines lines.flatten lines)
    (begins : Begins lines) (never : ∀ part, part <+: lines → part ≠ [] → part ≠ lines →
      Sql.isComplete part.flatten = false) :
    ∀ p ∈ collecting s echo [] lines, p.desk.buffer = [] ∨ Waiting p.desk.buffer := by
  intro p member
  obtain ⟨part, inside, other, held⟩ := buffer_collecting s echo p member
  rw [held, List.nil_append]
  by_cases full : part = []
  · exact .inl (by rw [full]; rfl)
  · obtain ⟨rest, rfl⟩ := inside
    exact .inr (waiting_flatten shape.front (begins.part (List.prefix_append _ _) full)
      (never part (List.prefix_append _ _) full other))

theorem waiting_formed {b : Block} (formed : b.Formed) (shape : Lines b.lines.flatten b.lines) :
    ∀ p ∈ b.prompts s echo, p.desk.buffer = [] ∨ Waiting p.desk.buffer := by
  cases formed with
  | blank => exact List.forall_mem_singleton.2 (.inl rfl)
  | command => exact List.forall_mem_singleton.2 (.inl rfl)
  | batch batch => exact waiting_collecting s echo shape batch.begins batch.first

theorem waiting_division {lines : List Text} {d : Division} (divides : Divides lines d)
    (shape : Lines lines.flatten lines) :
    ∀ p ∈ d.prompts r e files echo s, p.desk.buffer = [] ∨ Waiting p.desk.buffer := by
  induction divides generalizing s with
  | done => exact List.forall_mem_singleton.2 (.inl rfl)
  | @pending lines pending =>
    rw [Division.prompts, Division.promptsFrom, List.forall_mem_append]
    refine ⟨waiting_collecting s echo shape pending.begins fun part inside full _ =>
      pending.never part inside full, List.forall_mem_singleton.2 (.inr ?_)⟩
    exact waiting_flatten shape pending.begins
      (pending.never lines (List.prefix_refl lines) pending.begins.ne_nil)
  | quit formed quits =>
    rw [Division.prompts, Division.promptsFrom, if_pos quits, List.append_nil]
    exact waiting_formed s echo formed shape.front
  | more formed stays _ ih =>
    rw [Division.prompts, Division.promptsFrom, if_neg (Bool.eq_false_iff.1 stays),
      List.forall_mem_append]
    exact ⟨waiting_formed s echo formed shape.front, ih _ shape.back⟩

theorem buffer_importAll (d : Desk σ) (paths : List Text) :
    (d.importAll e files paths).1 = ⟨(d.importAll e files paths).1.session, d.buffer, d.echo⟩ := by
  induction paths generalizing d with
  | nil => rfl
  | cons path paths ih => exact ih (d.importFile e files ⟨path, none⟩).1

/-- The discipline of the dialogue over any input, after any imports, with any engine and any
renderings, in whatever way the reading ends. The lines of what is read are divided, in one way, into
blank lines, commands, batches and what is left at the end. The prompts are those that the blocks
call for, what is run are the batches, each of them complete as it is run, and at every prompt the
buffer is empty or waits for more of a batch. -/
theorem takeAll_divided (imports : List Text) (input : Text) (ending : Ending) :
    let desk := (Desk.importAll e files ⟨s, [], echo⟩ imports).1
    let lines := splitLines input
    let prompts := desk.prompts r e files lines
    desk.takeAll r e files ending lines = prompts.flatMap (Prompt.shown r e files ending) ∧
      Lines input lines ∧
      ∃ d, Divides lines d ∧ (∀ d', Divides lines d' → d' = d) ∧
        d.blocks.flatMap Block.lines ++ (d.unfinished ++ d.unread) = lines ∧
        prompts = d.prompts r e files echo desk.session ∧
        prompts.filterMap Prompt.ran? = d.batches ∧
        (∀ sql ∈ d.batches, Sql.isComplete sql = true) ∧
        ∀ p ∈ prompts, p.desk.buffer = [] ∨ Waiting p.desk.buffer := by
  intro desk lines prompts
  have shape : Lines input lines := lines_splitLines input
  obtain ⟨d, divides⟩ := exists_divides lines
  have same : prompts = d.prompts r e files echo desk.session := by
    rw [← prompts_division r e files desk.session echo divides]
    exact congrArg (Desk.prompts r e files · lines) (buffer_importAll e files _ imports)
  refine ⟨Desk.takeAll_eq r e files ending desk lines, shape, d, divides,
    fun d' divides' => divides'.unique divides, divides.whole, same, ?_,
    isComplete_batches divides, ?_⟩
  · rw [same]
    exact ran_division r e files desk.session echo divides
  · rw [same]
    exact waiting_division r e files desk.session echo divides (shape.flatten.symm ▸ shape)

end QueryDesk.Shell
