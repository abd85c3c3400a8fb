import DocSchema.Event
import DocSchema.Pattern.Basic

/-!
# Readings

The outcome of reading a schema document: what was read or why reading stopped, and in any case the
events up to that point.
-/

namespace DocSchema

/-- Why a schema document cannot be read. -/
inductive ReadError where
  | notAnObject (path : Path) (got : String)
  | invalidPattern (path : Path) (reason : Pattern.Refusal)
  deriving DecidableEq, Repr

/-- The text of the error up to the reason for which a pattern is refused. -/
def ReadError.heading : ReadError → String
  | notAnObject path got =>
    "schema at '" ++ path.render ++ "' must be an object, got " ++ got
  | invalidPattern path _ => "invalid pattern for '" ++ path.render ++ "'"

/-- The text of the error. -/
def ReadError.message (e : ReadError) : String :=
  match e with
  | notAnObject _ _ => e.heading
  | invalidPattern _ reason => e.heading ++ ": " ++ reason.message

/-- An outcome with the events on the way to it. -/
structure Reading (α : Type) where
  events : List Event
  result : Except ReadError α

namespace Reading

variable {α β : Type}

/-- Reads nothing. -/
def pure (a : α) : Reading α :=
  ⟨[], .ok a⟩

/-- Goes on unless reading has stopped. -/
def bind (r : Reading α) (f : α → Reading β) : Reading β :=
  match r.result with
  | .error e => ⟨r.events, .error e⟩
  | .ok a => ⟨r.events ++ (f a).events, (f a).result⟩

instance : Monad Reading where
  pure := pure
  bind := bind

/-- Reports an event. -/
def emit (event : Event) : Reading Unit :=
  ⟨[event], .ok ()⟩

/-- Stops reading. -/
def stop (e : ReadError) : Reading α :=
  ⟨[], .error e⟩

theorem pure_eq (a : α) : (Pure.pure a : Reading α) = ⟨[], .ok a⟩ := rfl

theorem bind_eq (r : Reading α) (f : α → Reading β) :
    (r >>= f) = match r.result with
      | .error e => ⟨r.events, .error e⟩
      | .ok a => ⟨r.events ++ (f a).events, (f a).result⟩ := rfl

/-- After a success, what follows is read, and its events come behind. -/
theorem bind_of_ok {r : Reading α} {a : α} (h : r.result = .ok a) (f : α → Reading β) :
    (r >>= f) = ⟨r.events ++ (f a).events, (f a).result⟩ := by
  rw [bind_eq, h]

/-- After an error nothing more is read. -/
theorem bind_of_error {r : Reading α} {e : ReadError} (h : r.result = .error e)
    (f : α → Reading β) : (r >>= f) = ⟨r.events, .error e⟩ := by
  rw [bind_eq, h]

/-- A last step that neither reports nor stops only changes what was read. -/
theorem bind_pure_eq (r : Reading α) (f : α → β) :
    (r >>= fun a => Pure.pure (f a)) = ⟨r.events, r.result.map f⟩ := by
  cases h : r.result with
  | error e => exact bind_of_error h _
  | ok a =>
    rw [bind_of_ok h, pure_eq, List.append_nil]
    rfl

/-- The steps of a reading can be grouped in any way. -/
theorem bind_assoc {γ : Type} (r : Reading α) (f : α → Reading β) (g : β → Reading γ) :
    (r >>= f >>= g) = r >>= fun a => f a >>= g := by
  cases h : r.result with
  | error e => rw [bind_of_error h, bind_of_error h, bind_of_error rfl]
  | ok a =>
    rw [bind_of_ok h, bind_of_ok h]
    cases hf : (f a).result with
    | error e => rw [bind_of_error rfl, bind_of_error hf]
    | ok b => rw [bind_of_ok rfl, bind_of_ok hf, List.append_assoc]

/-! ## Results -/

@[simp] theorem result_pure (a : α) : (Pure.pure a : Reading α).result = .ok a := rfl

@[simp] theorem result_emit (event : Event) : (emit event).result = .ok () := rfl

@[simp] theorem result_stop (e : ReadError) : (stop e : Reading α).result = .error e := rfl

@[simp] theorem result_bind (r : Reading α) (f : α → Reading β) :
    (r >>= f).result = r.result.bind fun a => (f a).result := by
  rw [bind_eq]
  cases r.result <;> rfl

theorem result_bind_eq_ok_iff {r : Reading α} {f : α → Reading β} {b : β} :
    (r >>= f).result = .ok b ↔ ∃ a, r.result = .ok a ∧ (f a).result = .ok b := by
  rw [result_bind]
  cases r.result with
  | error e => simp [Except.bind]
  | ok a => simp [Except.bind]

theorem result_bind_pure (r : Reading α) (f : α → β) :
    (r >>= fun a => Pure.pure (f a)).result = r.result.map f := by
  rw [bind_pure_eq]

end Reading

end DocSchema
