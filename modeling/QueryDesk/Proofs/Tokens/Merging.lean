import QueryDesk.Sql.Span

/-!
# Runs of plain tokens

Merging puts every run of plain tokens into one. It does not matter in which order a run is put
together (`joinPlain_joinPlain`), and the first of the merged tokens has the class of the first one
that went in (`merge_cons`).
-/

set_option autoImplicit false

namespace QueryDesk.Sql.Token

open Text

theorem joinPlain_plain {t u : Token} (plain : t.kind = .plain) (plain' : u.kind = .plain)
    (us : List Token) : joinPlain t (u :: us) = ⟨.plain, t.text ++ u.text⟩ :: us := by
  rw [joinPlain, if_pos ⟨plain, plain'⟩]

theorem joinPlain_apart {t u : Token} (apart : ¬ (t.kind = .plain ∧ u.kind = .plain))
    (us : List Token) : joinPlain t (u :: us) = t :: u :: us := by
  rw [joinPlain, if_neg apart]

/-- A token of another class stays as it is. -/
theorem merge_cons_of_kind {t : Token} (other : t.kind ≠ .plain) (ts : List Token) :
    merge (t :: ts) = t :: merge ts := by
  rw [merge]
  cases merge ts with
  | nil => rfl
  | cons u us => exact joinPlain_apart (fun both => other both.1) us

/-- A run can be put together from the front as well. -/
theorem joinPlain_joinPlain {t u : Token} (plain : t.kind = .plain) (plain' : u.kind = .plain)
    (us : List Token) :
    joinPlain t (joinPlain u us) = joinPlain ⟨.plain, t.text ++ u.text⟩ us := by
  cases us with
  | nil => exact joinPlain_plain plain plain' []
  | cons v vs =>
    by_cases plain'' : v.kind = .plain
    · rw [joinPlain_plain plain' plain'', joinPlain_plain plain rfl, joinPlain_plain rfl plain'',
        List.append_assoc]
    · rw [joinPlain_apart fun both => plain'' both.2, joinPlain_plain plain plain',
        joinPlain_apart fun both => plain'' both.2]

theorem joinPlain_cons (t : Token) (ts : List Token) :
    ∃ u us, joinPlain t ts = u :: us ∧ u.kind = t.kind := by
  cases ts with
  | nil => exact ⟨t, [], rfl, rfl⟩
  | cons v vs =>
    rw [joinPlain]
    split
    · rename_i both
      exact ⟨_, vs, rfl, both.1.symm⟩
    · exact ⟨t, v :: vs, rfl, rfl⟩

theorem merge_cons (t : Token) (ts : List Token) :
    ∃ u us, merge (t :: ts) = u :: us ∧ u.kind = t.kind := joinPlain_cons t (merge ts)

/-- Where merged tokens are divided, so are those that went in: no run lies on both sides. -/
theorem merge_eq_append {tokens front back : List Token} (merged : merge tokens = front ++ back) :
    ∃ ts us, tokens = ts ++ us ∧ merge ts = front ∧ merge us = back := by
  induction tokens generalizing front with
  | nil =>
    obtain ⟨rfl, rfl⟩ := List.append_eq_nil_iff.1 merged.symm
    exact ⟨[], [], rfl, rfl, rfl⟩
  | cons t ts ih =>
    cases front with
    | nil => exact ⟨[], t :: ts, rfl, rfl, merged⟩
    | cons v vs =>
      have whole : joinPlain t (merge ts) = v :: (vs ++ back) := merged
      cases rest : merge ts with
      | nil =>
        rw [rest] at whole
        obtain ⟨rfl, none⟩ := List.cons.inj whole
        obtain ⟨rfl, rfl⟩ := List.append_eq_nil_iff.1 none.symm
        obtain ⟨front, back, rfl, front', back'⟩ := @ih [] rest
        exact ⟨t :: front, back, rfl, by rw [merge, front']; rfl, back'⟩
      | cons u us =>
        rw [rest] at whole
        by_cases both : t.kind = .plain ∧ u.kind = .plain
        · rw [joinPlain_plain both.1 both.2] at whole
          obtain ⟨rfl, rfl⟩ := List.cons.inj whole
          obtain ⟨front, back, rfl, front', back'⟩ := @ih (u :: vs) rest
          exact ⟨t :: front, back, rfl, by rw [merge, front', joinPlain_plain both.1 both.2], back'⟩
        · rw [joinPlain_apart both] at whole
          obtain ⟨rfl, same⟩ := List.cons.inj whole
          obtain ⟨front, back, rfl, front', back'⟩ := @ih vs (rest.trans same)
          refine ⟨t :: front, back, rfl, ?_, back'⟩
          rw [merge, front']
          cases vs with
          | nil => rfl
          | cons w ws =>
            obtain ⟨rfl, -⟩ := List.cons.inj same
            exact joinPlain_apart both ws

theorem merge_full {tokens : List Token} (full : ∀ t ∈ tokens, t.text ≠ []) :
    ∀ t ∈ merge tokens, t.text ≠ [] := by
  induction tokens with
  | nil => exact full
  | cons t ts ih =>
    have head := full t (List.mem_cons_self ..)
    have tail := ih fun u member => full u (List.mem_cons_of_mem t member)
    intro u member
    rw [merge] at member
    cases rest : merge ts with
    | nil =>
      rw [rest, joinPlain, List.mem_singleton] at member
      exact member ▸ head
    | cons v vs =>
      rw [rest] at member tail
      by_cases both : t.kind = .plain ∧ v.kind = .plain
      · rw [joinPlain_plain both.1 both.2] at member
        rcases List.mem_cons.1 member with rfl | member
        · exact List.append_ne_nil_of_left_ne_nil head v.text
        · exact tail u (List.mem_cons_of_mem v member)
      · rw [joinPlain_apart both] at member
        rcases List.mem_cons.1 member with rfl | member
        · exact head
        · exact tail u member

end QueryDesk.Sql.Token
