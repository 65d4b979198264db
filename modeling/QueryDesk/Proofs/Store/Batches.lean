import Mathlib.Data.List.TakeWhile
import QueryDesk.Proofs.Engine.Batches
import QueryDesk.Proofs.Store.Tokens
import QueryDesk.Proofs.Tokens.Coarsening
import QueryDesk.Store.Batch

/-!
# Batches of a store

The first statement of a text and what stands before and behind it (`Begins`). A store cuts its
batches at the semicolons that stand alone, whatever is between them (`cutsAtSemicolons`).
-/

set_option autoImplicit false

namespace QueryDesk.Store

open Text Sql

namespace Statement

variable {t u : Token} {ts us : List Token}

theorem concat_joinName (t : Token) (us : List Token) :
    Token.concat (joinName t us) = t.text ++ Token.concat us := by
  cases us with
  | nil => rfl
  | cons u us =>
    rw [joinName]
    split
    · exact List.append_assoc t.text u.text (Token.concat us)
    · rfl

theorem concat_joined (ts : List Token) : Token.concat (joined ts) = Token.concat ts := by
  induction ts with
  | nil => rfl
  | cons t ts ih =>
    rw [joined_cons, concat_joinName, ih]
    rfl

theorem concat_tokens (sql : Text) : Token.concat (tokens sql) = sql :=
  (concat_joined _).trans (Token.concat_wordwise sql)

theorem tokens_nil : tokens [] = [] := congrArg joined Token.wordwise_nil

/-- No semicolon comes about where the parts of a name are joined. -/
theorem bare_joined (bare : ∀ t ∈ ts, t.isSemicolon = false) :
    ∀ u ∈ joined ts, u.isSemicolon = false := by
  induction ts with
  | nil => exact List.forall_mem_nil _
  | cons t ts ih =>
    obtain ⟨here, rest⟩ := List.forall_mem_cons.1 bare
    rw [joined_cons]
    cases shape : joined ts with
    | nil => exact List.forall_mem_singleton.2 here
    | cons u us =>
      obtain ⟨first, others⟩ := List.forall_mem_cons.1 (shape ▸ ih rest)
      rw [joinName]
      split
      · exact List.forall_mem_cons.2 ⟨rfl, others⟩
      · exact List.forall_mem_cons.2 ⟨here, List.forall_mem_cons.2 ⟨first, others⟩⟩

theorem joined_semicolon (ts us : List Token) :
    joined (ts ++ semicolon :: us) = joined ts ++ semicolon :: joined us := by
  have apart : isNamePart semicolon = false := by decide
  have seam : Seam ts (semicolon :: us) := .inr apart
  rw [joined_append seam, joined_cons, joinName_apart (.inl apart)]

/-- Nor where phrases are taken apart. -/
theorem bare_unphrase {after : Text} (obeys : Obeys Phrase.all [] t after)
    (bare : t.isSemicolon = false) : ∀ u ∈ t.unphrase, u.isSemicolon = false := by
  rw [Token.unphrase_eq obeys]
  split
  case isTrue =>
    intro u member
    rcases Token.keyword_or_gap member with keyword | gap
    · exact Token.not_isSemicolon_of_kind (by rw [keyword]; decide)
    · obtain ⟨c, -, rfl⟩ := Token.isGap_iff.1 gap
      rfl
  case isFalse => exact List.forall_mem_singleton.2 bare

theorem bare_flatMap_unphrase (stands : Stands Phrase.all (ts ++ us))
    (bare : ∀ t ∈ ts, t.isSemicolon = false) :
    ∀ u ∈ ts.flatMap Token.unphrase, u.isSemicolon = false := by
  induction ts with
  | nil => exact List.forall_mem_nil _
  | cons t ts ih =>
    obtain ⟨here, rest⟩ := List.forall_mem_cons.1 bare
    rw [List.flatMap_cons]
    exact List.forall_mem_append.2 ⟨bare_unphrase stands.1 here, ih stands.2 rest⟩

/-- A text up to the first semicolon that stands alone has tokens of its own. -/
theorem tokens_closes {p : Text} (closes : Closes p) : ∃ us, Token.concat us = p ∧
    (∀ u ∈ us, u.isSemicolon = false) ∧
      ∀ b, tokens (p ++ ';' :: b) = us ++ semicolon :: tokens b := by
  obtain ⟨ts, read, bare⟩ := closes
  obtain ⟨whole, stands⟩ := Token.split_eq_iff_stands.1 read
  obtain rfl : Token.concat ts = p := by
    rw [Token.concat_append] at whole
    exact List.append_cancel_right whole
  have barred : Barred ts := stands
  have plain : Token.unphrase semicolon = [semicolon] := if_neg (by decide)
  have cut (b : Text) : tokens (Token.concat ts ++ ';' :: b) =
      joined (ts.flatMap Token.unphrase) ++ semicolon :: tokens b := by
    change joined (Token.wordwise _) = _ ++ semicolon :: joined (Token.wordwise b)
    rw [Token.wordwise_eq_flatMap, split_barred barred, List.flatMap_append, List.flatMap_cons,
      plain, ← Token.wordwise_eq_flatMap]
    exact joined_semicolon _ _
  refine ⟨_, ?_, bare_joined (bare_flatMap_unphrase stands bare), cut⟩
  have text := congrArg Token.concat (cut [])
  rw [concat_tokens, Token.concat_append, tokens_nil] at text
  exact (List.append_cancel_right text).symm

end Statement

open Statement

variable {idle body after ts : List Token} {sql : Text} {d : Database}

/-- Tokens with a first statement among them. -/
structure Begins (idle body after ts : List Token) : Prop where
  whole : ts = idle ++ (body ++ after)
  idle : ∀ t ∈ idle, isIdle t = true
  seen : ∃ t rest, body = t :: rest ∧ isIdle t = false
  bare : ∀ t ∈ body, t.isSemicolon = false
  ends : after = [] ∨ ∃ rest, after = semicolon :: rest

namespace Begins

theorem takeWhile (begins : Begins idle body after ts) : ts.takeWhile isIdle = idle := by
  obtain ⟨t, rest, rfl, seen⟩ := begins.seen
  rw [begins.whole, List.takeWhile_append_of_pos begins.idle, List.cons_append,
    List.takeWhile_cons_of_neg (by simp [seen]), List.append_nil]

theorem first (begins : Begins idle body after ts) : firstStatement ts = body := by
  have kept : ∀ t ∈ body, (!t.isSemicolon) = true := fun t member => by simp [begins.bare t member]
  obtain ⟨t, rest, rfl, seen⟩ := begins.seen
  rw [firstStatement, begins.whole, List.dropWhile_append_of_pos begins.idle,
    List.cons_append, List.dropWhile_cons_of_neg (by simp [seen]), ← List.cons_append,
    List.takeWhile_append_of_pos kept]
  rcases begins.ends with rfl | ⟨behind, rfl⟩
  · exact List.append_nil _
  · rw [List.takeWhile_cons_of_neg (by decide), List.append_nil]

theorem rest (begins : Begins idle body after (tokens sql)) :
    afterFirst sql = Token.concat after.tail := by
  have text : sql = Token.concat (idle ++ body) ++ Token.concat after := by
    rw [← Token.concat_append, List.append_assoc, ← begins.whole, concat_tokens]
  rw [afterFirst, begins.takeWhile, begins.first]
  conv => lhs; rw [text]
  rw [← List.drop_drop, List.drop_left]
  rcases begins.ends with rfl | ⟨behind, rfl⟩
  · rfl
  · rfl

theorem prepareFirst_eq (begins : Begins idle body after (tokens sql)) (d : Database) :
    prepareFirst sql d = (prepareTokens d body).mapError (Refusal.failure sql) := by
  rw [prepareFirst, begins.first]

theorem prepareNext_eq (begins : Begins idle body after (tokens sql)) (d : Database) :
    prepareNext sql d = ((prepareTokens d body).mapError (Refusal.failure sql)).map
      fun p => some (p, Token.concat after.tail) := by
  rw [← begins.prepareFirst_eq]
  have some : ¬ body.isEmpty = true := by
    obtain ⟨t, rest, rfl, -⟩ := begins.seen
    exact Bool.false_ne_true
  rw [prepareNext, begins.first, begins.rest, if_neg some]

/-- A refusal is the same in the text that goes on behind the semicolon. -/
theorem failure {after' : List Token} {b : Text} (begins : Begins idle body after (tokens sql))
    (begins' : Begins idle body after' (tokens (sql ++ b))) (r : Refusal) :
    r.failure (sql ++ b) = (r.failure sql).within [] b := by
  rw [Refusal.failure, Refusal.failure]
  simp only [begins.takeWhile, begins.first, begins'.takeWhile, begins'.first]
  cases r.place? body with
  | none => rfl
  | some there => simp [Failure.within, byteSize]

/-- And in the text with more of what does nothing in front. -/
theorem failure_behind {more : List Token} {front : Text} (text : Token.concat more = front)
    (begins : Begins idle body after (tokens sql))
    (begins' : Begins (more ++ idle) body after (tokens (front ++ sql))) (r : Refusal) :
    r.failure (front ++ sql) = (r.failure sql).within front [] := by
  rw [Refusal.failure, Refusal.failure]
  simp only [begins.takeWhile, begins.first, begins'.takeWhile, begins'.first]
  cases r.place? body with
  | none => rfl
  | some there => simp [Failure.within, Token.concat_append, text, byteSize_append, Nat.add_assoc]

end Begins

/-- Where there is nothing else, blanks, comments and semicolons hold no statement. -/
theorem prepareNext_idle (idle : ∀ t ∈ tokens sql, isIdle t = true) (d : Database) :
    prepareNext sql d = .ok none := by
  have none : firstStatement (tokens sql) = [] := by
    rw [firstStatement, List.dropWhile_eq_nil_iff.2 idle, List.takeWhile_nil]
  rw [prepareNext, none]
  rfl

theorem begins_or_idle (ts : List Token) :
    (∀ t ∈ ts, isIdle t = true) ∨ ∃ idle body after, Begins idle body after ts := by
  cases shape : ts.dropWhile isIdle with
  | nil => exact .inl (List.dropWhile_eq_nil_iff.1 shape)
  | cons t rest =>
    have seen : isIdle t = false := by
      have first := List.head?_dropWhile_not isIdle ts
      rw [shape] at first
      simpa using first
    have single : t.isSemicolon = false := by
      cases here : t.isSemicolon with
      | false => rfl
      | true => simp [isIdle, here] at seen
    refine .inr ⟨ts.takeWhile isIdle, t :: rest.takeWhile (!Token.isSemicolon ·),
      rest.dropWhile (!Token.isSemicolon ·), ⟨?_, ?_, ⟨t, _, rfl, seen⟩, ?_, ?_⟩⟩
    · rw [List.cons_append, List.takeWhile_append_dropWhile, ← shape,
        List.takeWhile_append_dropWhile]
    · exact List.all_eq_true.1 List.all_takeWhile
    · exact List.forall_mem_cons.2 ⟨single, fun u member => by
        simpa using List.all_eq_true.1 List.all_takeWhile u member⟩
    · cases ends : rest.dropWhile (!Token.isSemicolon ·) with
      | nil => exact .inl rfl
      | cons u us =>
        have first := List.head?_dropWhile_not (!Token.isSemicolon ·) rest
        rw [ends] at first
        exact .inr ⟨us, congrArg (· :: us) (eq_semicolon (by simpa using first))⟩

/-- A text up to the first semicolon that stands alone holds a statement, or nothing that is one. -/
theorem begins_or_idle_of_closes {p : Text} (closes : Closes p) :
    (∃ us, Token.concat us = p ∧ (∀ u ∈ us, isIdle u = true) ∧
      ∀ b, tokens (p ++ ';' :: b) = us ++ semicolon :: tokens b) ∨
    ∃ idle body, ∀ b, Begins idle body (semicolon :: tokens b) (tokens (p ++ ';' :: b)) := by
  obtain ⟨us, whole, bare, cut⟩ := tokens_closes closes
  rcases begins_or_idle us with idle | ⟨idle, body, after, begins⟩
  · exact .inl ⟨us, whole, idle, cut⟩
  · rcases begins.ends with rfl | ⟨rest, rfl⟩
    · refine .inr ⟨idle, body, fun b =>
        ⟨?_, begins.idle, begins.seen, begins.bare, .inr ⟨_, rfl⟩⟩⟩
      rw [cut, begins.whole, List.append_nil, List.append_assoc]
    · have member : semicolon ∈ us := by simp [begins.whole]
      cases bare semicolon member

variable {p : Text}

theorem prepareNext_statement
    (begins : ∀ b, Begins idle body (semicolon :: tokens b) (tokens (p ++ ';' :: b))) (b : Text)
    (d : Database) : prepareNext (p ++ ';' :: b) d =
      ((prepareTokens d body).map fun st => some (st, b)).mapError
        fun refusal => (refusal.failure (p ++ [';'])).within [] b := by
  have longer : p ++ ';' :: b = p ++ [';'] ++ b := by simp
  rw [(begins b).prepareNext_eq, List.tail_cons, concat_tokens]
  cases prepareTokens d body with
  | ok st => rfl
  | error refusal =>
    have both := begins b
    rw [longer] at both ⊢
    exact congrArg Except.error ((begins []).failure both refusal)

theorem prepareNext_empty {us : List Token} (whole : Token.concat us = p)
    (idle : ∀ u ∈ us, isIdle u = true)
    (cut : ∀ b, tokens (p ++ ';' :: b) = us ++ semicolon :: tokens b) (b : Text) (d : Database) :
    prepareNext (p ++ ';' :: b) d =
      (prepareNext b d).mapError fun f => f.within (p ++ [';']) [] := by
  have idle' : ∀ u ∈ us ++ [semicolon], isIdle u = true :=
    List.forall_mem_append.2 ⟨idle, List.forall_mem_singleton.2 rfl⟩
  have longer : p ++ ';' :: b = p ++ [';'] ++ b := by simp
  have behind : tokens (p ++ [';'] ++ b) = us ++ [semicolon] ++ tokens b := by
    rw [← longer, cut]
    simp
  rw [longer]
  rcases begins_or_idle (tokens b) with none | ⟨idle, body, after, begins⟩
  · rw [prepareNext_idle none, prepareNext_idle (behind ▸ List.forall_mem_append.2 ⟨idle', none⟩)]
    rfl
  · have both : Begins (us ++ [semicolon] ++ idle) body after (tokens (p ++ [';'] ++ b)) :=
      ⟨by rw [behind, begins.whole]; simp,
        List.forall_mem_append.2 ⟨idle', begins.idle⟩, begins.seen, begins.bare, begins.ends⟩
    have front : Token.concat (us ++ [semicolon]) = p ++ [';'] := by
      rw [Token.concat_append, whole]
      rfl
    rw [both.prepareNext_eq, begins.prepareNext_eq]
    cases prepareTokens d body with
    | ok st => rfl
    | error refusal => exact congrArg Except.error (begins.failure_behind front both refusal)

/-- A store cuts a batch at the semicolons that stand alone, whatever is between them. -/
theorem cutsAtSemicolons : connection.CutsAtSemicolons fun _ => True where
  nothing d := prepareNext_idle (by decide +kernel) d
  statement {p rest d st} _ closes found b := by
    change prepareNext _ d = _ at found
    change prepareNext _ d = _
    rcases begins_or_idle_of_closes closes with ⟨us, whole, idle, cut⟩ | ⟨idle, body, begins⟩
    · rw [prepareNext_empty whole idle cut, prepareNext_idle (by decide +kernel)] at found
      cases found
    · rw [prepareNext_statement begins] at found ⊢
      cases prepared : prepareTokens d body with rw [prepared] at found
      | error refusal => cases found
      | ok st =>
        cases found
        rfl
  refused {p d f} _ closes failed b := by
    change prepareNext _ d = _ at failed
    change prepareNext _ d = _
    rcases begins_or_idle_of_closes closes with ⟨us, whole, idle, cut⟩ | ⟨idle, body, begins⟩
    · rw [prepareNext_empty whole idle cut, prepareNext_idle (by decide +kernel)] at failed
      cases failed
    · rw [prepareNext_statement begins] at failed ⊢
      cases prepared : prepareTokens d body with rw [prepared] at failed
      | error refusal =>
        cases failed
        exact congrArg Except.error ((refusal.failure _).within_within [] [] [] b).symm
      | ok st => cases failed
  empty {p d} _ closes none b := by
    change prepareNext _ d = _ at none
    rcases begins_or_idle_of_closes closes with ⟨us, whole, idle, cut⟩ | ⟨idle, body, begins⟩
    · exact prepareNext_empty whole idle cut b d
    · rw [prepareNext_statement begins] at none
      cases prepared : prepareTokens d body with rw [prepared] at none
      | error refusal => cases none
      | ok st => cases none

/-- The table that a new desk has. -/
theorem demo_eq : demo = ⟨[⟨"users".toList, [⟨"id".toList, .integer⟩, ⟨"name".toList, .text⟩],
    [[.integer 1, .text "Leonardo".toList], [.integer 2, .text "Agata".toList]]⟩]⟩ := by
  decide +kernel

end QueryDesk.Store
