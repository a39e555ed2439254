import Replicat.Lib.Sqlite

/-!
# Connections with related contents

A relation between the contents of two databases, carried over to sessions and connections:
what is read, what an open transaction would restore and what is left in a file are related in
turn. A statement `Respects` the relation if it gives the same output on both and leaves them
related.
-/

namespace Sqlite

variable {D α : Type} {R : D → D → Prop}

/-- The relation survives what happens to contents besides statements. -/
structure Contents.Kept [Contents D] (R : D → D → Prop) : Prop where
  refl : ∀ d, R d d
  replace {d d' : D} (image : D) : R d d' → R (Contents.replace d image) (Contents.replace d' image)

structure Session.Rel (R : D → D → Prop) (s t : Session D) : Prop where
  main : R s.main t.main
  saved : Option.Rel R s.saved t.saved

inductive Backing.Rel (R : D → D → Prop) : Backing D → Backing D → Prop where
  | disk : Rel R .disk .disk
  | memory {left left' : Option D} : Option.Rel R left left' → Rel R (.memory left) (.memory left')

structure Connection.Rel (R : D → D → Prop) (c c' : Connection D) : Prop where
  session : Option.Rel (Session.Rel R) c.session c'.session
  backing : Backing.Rel R c.backing c'.backing

theorem optionRel_refl (hR : ∀ d, R d d) (a : Option D) : Option.Rel R a a := by
  cases a with
  | none => exact .none
  | some d => exact .some (hR d)

theorem Session.Rel.committed {s t : Session D} (h : Session.Rel R s t) : R s.committed t.committed := by
  obtain ⟨d, saved⟩ := s
  obtain ⟨d', saved'⟩ := t
  obtain ⟨hmain, hsaved⟩ := h
  cases hsaved with
  | none => exact hmain
  | some h => exact h

theorem Session.Rel.isSome_saved {s t : Session D} (h : Session.Rel R s t) :
    s.saved.isSome = t.saved.isSome := by
  obtain ⟨d, saved⟩ := s
  obtain ⟨d', saved'⟩ := t
  obtain ⟨-, hsaved⟩ := h
  cases hsaved <;> rfl

theorem Session.Rel.load [Contents D] {s t : Session D} (h : Session.Rel R s t) (hR : Contents.Kept R)
    (image : D) : Session.Rel R (s.load image) (t.load image) := by
  obtain ⟨d, saved⟩ := s
  obtain ⟨d', saved'⟩ := t
  obtain ⟨hmain, hsaved⟩ := h
  refine ⟨hR.replace image hmain, ?_⟩
  cases hsaved with
  | none => exact .none
  | some _ => exact .some (hR.replace image hmain)

/-! ## Statements -/

/-- The statement does the same on related contents. -/
def Prepared.Respects (R : D → D → Prop) (stmt : Prepared D) : Prop :=
  ∀ s t, Session.Rel R s t → (stmt s).2 = (stmt t).2 ∧ Session.Rel R (stmt s).1 (stmt t).1

theorem Prepared.respects_onMain {f : D → Except SqlError (D × Output)}
    (hf : ∀ d d', R d d' → (∃ e, f d = .error e ∧ f d' = .error e) ∨
      ∃ a a' out, f d = .ok (a, out) ∧ f d' = .ok (a', out) ∧ R a a') : (Prepared.onMain f).Respects R := by
  intro s t hst
  unfold Prepared.onMain
  rcases hf _ _ hst.main with ⟨e, hs, ht⟩ | ⟨a, a', out, hs, ht, ha⟩
  · rw [hs, ht]
    exact ⟨rfl, hst⟩
  · rw [hs, ht]
    exact ⟨rfl, ha, hst.saved⟩

namespace Connection.Rel

variable {c c' : Connection D} {stmt : Prepared D}

theorem step (h : Connection.Rel R c c') (hstmt : stmt.Respects R) :
    (c.step stmt).2 = (c'.step stmt).2 ∧ Connection.Rel R (c.step stmt).1 (c'.step stmt).1 := by
  have hsession := h.session
  unfold Connection.step
  generalize c.session = s, c'.session = s' at hsession
  cases hsession with
  | none => exact ⟨rfl, h⟩
  | some hst =>
    obtain ⟨hout, hrel⟩ := hstmt _ _ hst
    exact ⟨hout, .some hrel, h.backing⟩

theorem execute (h : Connection.Rel R c c') (hstmt : stmt.Respects R) :
    (c.execute stmt).2 = (c'.execute stmt).2 ∧ Connection.Rel R (c.execute stmt).1 (c'.execute stmt).1 := by
  obtain ⟨hout, hrel⟩ := h.step hstmt
  exact ⟨by rw [Connection.execute, Connection.execute, hout], hrel⟩

theorem queryRow (h : Connection.Rel R c c') (hstmt : stmt.Respects R) (fromRow : Row → Except SqlError α) :
    (c.queryRow stmt fromRow).2 = (c'.queryRow stmt fromRow).2 ∧
      Connection.Rel R (c.queryRow stmt fromRow).1 (c'.queryRow stmt fromRow).1 := by
  obtain ⟨hout, hrel⟩ := h.step hstmt
  exact ⟨by rw [Connection.queryRow, Connection.queryRow, hout], hrel⟩

theorem query (h : Connection.Rel R c c') (hstmt : stmt.Respects R) (fromRow : Row → Except SqlError α) :
    (c.query stmt fromRow).2 = (c'.query stmt fromRow).2 ∧
      Connection.Rel R (c.query stmt fromRow).1 (c'.query stmt fromRow).1 := by
  obtain ⟨hout, hrel⟩ := h.step hstmt
  exact ⟨by rw [Connection.query, Connection.query, hout], hrel⟩

theorem durable (h : Connection.Rel R c c') : Option.Rel R c.durable c'.durable := by
  obtain ⟨hsession, hbacking⟩ := h
  unfold Connection.durable
  generalize c.backing = b, c'.backing = b' at hbacking
  cases hbacking with
  | memory hleft => exact hleft
  | disk =>
    generalize c.session = s, c'.session = s' at hsession
    cases hsession with
    | none => exact .none
    | some hst => exact .some hst.committed

/-- Both go on over a new image. -/
theorem deserialize [Contents D] (h : Connection.Rel R c c') (hR : Contents.Kept R) (image : Option D) :
    Connection.Rel R (c.deserialize image).1 (c'.deserialize image).1 := by
  have hleft := h.durable
  have hsession := h.session
  refine ⟨?_, .memory hleft⟩
  unfold Connection.deserialize Connection.replaced
  generalize c.session = s, c'.session = s' at hsession
  cases image with
  | none => exact .none
  | some d =>
    cases hsession with
    | none => exact .some ⟨hR.refl d, .none⟩
    | some hst => exact .some (hst.load hR d)

end Connection.Rel

end Sqlite
