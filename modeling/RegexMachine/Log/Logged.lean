import RegexMachine.Log.Record

namespace RegexMachine

/-- The records of a computation in the order in which they were made, and its result. -/
structure Logged (ε α : Type) where
  log : List Record
  result : Except ε α

namespace Logged

variable {ε α β : Type}

/-- Succeeds without a record. -/
def ok (a : α) : Logged ε α := ⟨[], .ok a⟩

/-- Fails without a record. -/
def fail (e : ε) : Logged ε α := ⟨[], .error e⟩

/-- Makes one record. -/
def emit (r : Record) : Logged ε Unit := ⟨[r], .ok ()⟩

/-- Runs `x` and goes on with its value. -/
def bind (x : Logged ε α) (f : α → Logged ε β) : Logged ε β :=
  match x with
  | ⟨log, .ok a⟩ => let y := f a; ⟨log ++ y.log, y.result⟩
  | ⟨log, .error e⟩ => ⟨log, .error e⟩

instance : Monad (Logged ε) where
  pure := ok
  bind := bind

/-- The same computation with its error renamed. -/
def mapError {δ : Type} (f : ε → δ) (x : Logged ε α) : Logged δ α := ⟨x.log, x.result.mapError f⟩

/-- A result without a record. -/
def ofExcept (x : Except ε α) : Logged ε α := ⟨[], x⟩

@[simp] theorem log_pure (a : α) : (pure a : Logged ε α).log = [] := rfl

@[simp] theorem result_pure (a : α) : (pure a : Logged ε α).result = .ok a := rfl

@[simp] theorem log_fail (e : ε) : (fail e : Logged ε α).log = [] := rfl

@[simp] theorem result_fail (e : ε) : (fail e : Logged ε α).result = .error e := rfl

@[simp] theorem log_ofExcept (x : Except ε α) : (ofExcept x).log = [] := rfl

@[simp] theorem result_ofExcept (x : Except ε α) : (ofExcept x).result = x := rfl

@[simp] theorem log_mapError {δ : Type} (f : ε → δ) (x : Logged ε α) :
    (x.mapError f).log = x.log := rfl

@[simp] theorem result_mapError {δ : Type} (f : ε → δ) (x : Logged ε α) :
    (x.mapError f).result = x.result.mapError f := rfl

@[simp] theorem log_emit (r : Record) : (emit r : Logged ε Unit).log = [r] := rfl

@[simp] theorem result_emit (r : Record) : (emit r : Logged ε Unit).result = .ok () := rfl

@[simp] theorem result_bind (x : Logged ε α) (f : α → Logged ε β) :
    (x >>= f).result = x.result >>= fun a => (f a).result := by
  obtain ⟨log, a | a⟩ := x <;> rfl

theorem result_bind_of_ok {x : Logged ε α} {f : α → Logged ε β} {a : α} (h : x.result = .ok a) :
    (x >>= f).result = (f a).result := by
  rw [result_bind, h]
  rfl

/-- A computation succeeds if and only if both of its parts do. -/
theorem bind_eq_ok {x : Logged ε α} {f : α → Logged ε β} {b : β} :
    (x >>= f).result = .ok b ↔ ∃ a, x.result = .ok a ∧ (f a).result = .ok b := by
  obtain ⟨log, e | a⟩ := x
  · exact ⟨nofun, nofun⟩
  · exact ⟨fun h => ⟨a, rfl, h⟩, fun ⟨_, rfl, h⟩ => h⟩

/-- A computation fails where its first part fails, or its second. -/
theorem bind_eq_error {x : Logged ε α} {f : α → Logged ε β} {e : ε} :
    (x >>= f).result = .error e ↔
      x.result = .error e ∨ ∃ a, x.result = .ok a ∧ (f a).result = .error e := by
  rw [result_bind]
  cases x.result with
  | error d => simp [Bind.bind, Except.bind]
  | ok a => simp [Bind.bind, Except.bind]

theorem mapError_eq_error {δ : Type} {f : ε → δ} {x : Logged ε α} {d : δ} :
    (x.mapError f).result = .error d ↔ ∃ e, x.result = .error e ∧ f e = d := by
  obtain ⟨log, e | a⟩ := x
  · apply Iff.intro
    · intro h
      exact ⟨e, rfl, Except.error.inj h⟩
    · intro h
      obtain ⟨_, hresult, rfl⟩ := h
      cases hresult
      rfl
  · exact ⟨nofun, nofun⟩

theorem mapError_eq_ok {δ : Type} {f : ε → δ} {x : Logged ε α} {a : α} :
    (x.mapError f).result = .ok a ↔ x.result = .ok a := by
  obtain ⟨log, e | b⟩ := x
  · exact ⟨nofun, nofun⟩
  · have hmap : (mapError f ⟨log, .ok b⟩).result = .ok b := rfl
    rw [hmap, Except.ok.injEq, Except.ok.injEq]

theorem log_bind_ok {x : Logged ε α} {f : α → Logged ε β} {a : α} (h : x.result = .ok a) :
    (x >>= f).log = x.log ++ (f a).log := by
  obtain ⟨log, result⟩ := x
  obtain rfl : result = .ok a := h
  rfl

theorem log_bind_error {x : Logged ε α} {f : α → Logged ε β} {e : ε} (h : x.result = .error e) :
    (x >>= f).log = x.log := by
  obtain ⟨log, result⟩ := x
  obtain rfl : result = .error e := h
  rfl

theorem bind_assoc {γ : Type} (x : Logged ε α) (f : α → Logged ε β) (g : β → Logged ε γ) :
    x >>= f >>= g = x >>= fun a => f a >>= g := by
  obtain ⟨log, e | a⟩ := x
  · rfl
  · rcases hf : f a with ⟨more, e | b⟩
    · simp [Bind.bind, bind, hf]
    · simp [Bind.bind, bind, hf]

/-- What goes on without a record leaves the log as it is. -/
theorem log_bind_of_silent {x : Logged ε α} {f : α → Logged ε β} (hf : ∀ a, (f a).log = []) :
    (x >>= f).log = x.log := by
  cases h : x.result with
  | error e => exact log_bind_error h
  | ok a => rw [log_bind_ok h, hf, List.append_nil]

theorem forall_log_bind {P : Record → Prop} {x : Logged ε α} {f : α → Logged ε β}
    (hx : ∀ r ∈ x.log, P r) (hf : ∀ a, ∀ r ∈ (f a).log, P r) : ∀ r ∈ (x >>= f).log, P r := by
  cases h : x.result with
  | error e =>
    rw [log_bind_error h]
    exact hx
  | ok a =>
    rw [log_bind_ok h]
    exact List.forall_mem_append.2 ⟨hx, hf a⟩

end Logged

end RegexMachine
