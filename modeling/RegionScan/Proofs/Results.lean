/-!
# Results

Computations that give a result or fail.

A computation in several steps gives a result if all of its steps do, and fails with
the first failure. What is done with a result, or with the wording of a failure,
does not turn the one into the other. Handling the elements of a list one by one
is such a computation, and its result is made up of theirs.

## Theorems

* `except_bind_eq_ok`, `except_map_eq_ok`, `except_mapError_eq_ok`: When there is a
  result.
* `mapM_eq_ok_getElem?`, `mapM_eq_error`: The results of a list, and its failure.
* `mapM_take`, `mapM_append_eq_ok`: Parts of a list.
-/

namespace RegionScan

/-- A failure is no result. -/
theorem except_error_ne_ok {e : ε} {a : α} : (Except.error e : Except ε α) ≠ .ok a := by
  intro h
  cases h

/-- A computation in two steps gives a result if both steps do. -/
theorem except_bind_eq_ok {x : Except ε α} {f : α → Except ε β} {b : β} :
    (x >>= f) = .ok b ↔ ∃ a, x = .ok a ∧ f a = .ok b := by
  cases x with
  | error _ => exact ⟨fun h => (nomatch h), fun ⟨_, h, _⟩ => nomatch h⟩
  | ok a => exact ⟨fun h => ⟨a, rfl, h⟩, fun ⟨_, h, hf⟩ => (Except.ok.inj h) ▸ hf⟩

/-- A check and what follows it give a result if both pass. -/
theorem except_unit_bind_eq_ok {x : Except ε Unit} {f : Unit → Except ε β} {b : β} :
    (x >>= f) = .ok b ↔ x = .ok () ∧ f () = .ok b :=
  except_bind_eq_ok.trans ⟨fun ⟨(), h⟩ => h, fun h => ⟨(), h⟩⟩

/-- Wording an error differently does not make it a result. -/
theorem except_mapError_eq_ok {x : Except ε α} {f : ε → ε'} {a : α} :
    x.mapError f = .ok a ↔ x = .ok a := by
  cases x with
  | error _ => exact ⟨fun h => (nomatch h), fun h => nomatch h⟩
  | ok _ => exact ⟨fun h => congrArg _ (Except.ok.inj h), fun h => congrArg _ (Except.ok.inj h)⟩

/-- Doing something with a result does not make one out of an error. -/
theorem except_map_eq_ok {x : Except ε α} {f : α → β} {b : β} :
    x.map f = .ok b ↔ ∃ a, x = .ok a ∧ f a = b := by
  cases x with
  | error _ => exact ⟨fun h => (nomatch h), fun ⟨_, h, _⟩ => nomatch h⟩
  | ok a => exact ⟨fun h => ⟨a, rfl, Except.ok.inj h⟩, fun ⟨_, h, hf⟩ => by cases h; rw [← hf]; rfl⟩

/-- It does nothing to an error. -/
theorem except_map_eq_error {x : Except ε α} {f : α → β} {e : ε} :
    x.map f = .error e ↔ x = .error e := by
  cases x with
  | error _ => exact ⟨fun h => congrArg _ (Except.error.inj h), fun h => congrArg _ (Except.error.inj h)⟩
  | ok _ => exact ⟨fun h => (nomatch h), fun h => nomatch h⟩

/-- Wording an error differently does not change a result. -/
theorem toOption_mapError {x : Except ε α} {f : ε → ε'} :
    (x.mapError f).toOption = x.toOption := by
  cases x with
  | error _ => rfl
  | ok _ => rfl

/-- If elements are handled one by one, so are their results. -/
theorem mapM_eq_ok_getElem? {f : α → Except ε β} (l : List α) :
    ∀ {out : List β}, l.mapM f = .ok out →
      out.length = l.length ∧ ∀ (i : Nat) (a : α), l[i]? = some a →
        ∃ b, out[i]? = some b ∧ f a = .ok b := by
  induction l with
  | nil =>
      intro out h
      rw [List.mapM_nil] at h
      obtain rfl := Except.ok.inj h
      exact ⟨rfl, fun _ _ hi => nomatch hi⟩
  | cons a rest ih =>
      intro out h
      rw [List.mapM_cons] at h
      rcases except_bind_eq_ok.1 h with ⟨b, hb, h⟩
      rcases except_bind_eq_ok.1 h with ⟨others, hothers, h⟩
      obtain rfl := Except.ok.inj h
      rcases ih hothers with ⟨hlength, hget⟩
      refine ⟨by rw [List.length_cons, List.length_cons, hlength], fun i c hc => ?_⟩
      cases i with
      | zero =>
          obtain rfl := Option.some.inj hc
          exact ⟨b, rfl, hb⟩
      | succ i => exact hget i c hc

/-- If handling elements one by one fails, it fails at one of them. -/
theorem mapM_eq_error {f : α → Except ε β} {err : ε} (l : List α) :
    l.mapM f = .error err → ∃ a ∈ l, f a = .error err := by
  induction l with
  | nil =>
      intro h
      rw [List.mapM_nil] at h
      cases h
  | cons a rest ih =>
      intro h
      rw [List.mapM_cons] at h
      cases hfirst : f a with
      | error first =>
          rw [hfirst] at h
          obtain rfl := Except.error.inj h
          exact ⟨a, List.mem_cons_self, hfirst⟩
      | ok b =>
          rw [hfirst] at h
          cases hrest : rest.mapM f with
          | ok others =>
              rw [hrest] at h
              cases h
          | error later =>
              rw [hrest] at h
              obtain rfl := Except.error.inj h
              rcases ih hrest with ⟨c, hc, hfails⟩
              exact ⟨c, List.mem_cons_of_mem a hc, hfails⟩

/-- The first elements of a list are handled like the list. -/
theorem mapM_take {f : α → Except ε β} (l : List α) :
    ∀ {out : List β}, l.mapM f = .ok out → ∀ n : Nat, (l.take n).mapM f = .ok (out.take n) := by
  induction l with
  | nil =>
      intro out h n
      rw [List.mapM_nil] at h
      obtain rfl := Except.ok.inj h
      rw [List.take_nil, List.take_nil, List.mapM_nil]
      rfl
  | cons a rest ih =>
      intro out h n
      rw [List.mapM_cons] at h
      rcases except_bind_eq_ok.1 h with ⟨b, hb, h⟩
      rcases except_bind_eq_ok.1 h with ⟨others, hothers, h⟩
      obtain rfl := Except.ok.inj h
      cases n with
      | zero => rfl
      | succ n =>
          rw [List.take_succ_cons, List.take_succ_cons, List.mapM_cons, hb, ih hothers n]
          rfl

/-- The result of two lists, one after the other, is that of both. -/
theorem mapM_append_eq_ok {f : α → Except ε β} {l l' : List α} {out : List β}
    (h : (l ++ l').mapM f = .ok out) :
    ∃ first second, l.mapM f = .ok first ∧ l'.mapM f = .ok second ∧ out = first ++ second := by
  rw [List.mapM_append] at h
  rcases except_bind_eq_ok.1 h with ⟨first, hfirst, h⟩
  rcases except_bind_eq_ok.1 h with ⟨second, hsecond, h⟩
  exact ⟨first, second, hfirst, hsecond, (Except.ok.inj h).symm⟩

end RegionScan
