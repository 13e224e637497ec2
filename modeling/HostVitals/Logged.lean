import HostVitals.Event

/-!
# Computations that log

A `Logged α` is a value together with the events reported on the way to it, in
order. Computations are chained with `do`; the events of the first come first.

* `value_bind`, `events_bind`: the value and the events of a chain.
* `value_mapM`, `value_foldlM`: over a list the values do not depend on the log.
-/

namespace HostVitals

/-- A value and the events reported while it was computed. -/
structure Logged (α : Type) where
  value : α
  events : List Event

namespace Logged

variable {α β : Type}

/-- Goes on from a value. -/
def andThen (x : Logged α) (f : α → Logged β) : Logged β where
  value := (f x.value).value
  events := x.events ++ (f x.value).events

instance : Monad Logged where
  pure value := ⟨value, []⟩
  bind := andThen

@[simp] theorem value_pure (a : α) : (pure a : Logged α).value = a := rfl
@[simp] theorem events_pure (a : α) : (pure a : Logged α).events = [] := rfl
@[simp] theorem value_bind (x : Logged α) (f : α → Logged β) :
    (x >>= f).value = (f x.value).value := rfl
@[simp] theorem events_bind (x : Logged α) (f : α → Logged β) :
    (x >>= f).events = x.events ++ (f x.value).events := rfl

theorem ext {x y : Logged α} (hv : x.value = y.value) (he : x.events = y.events) : x = y := by
  cases x
  cases y
  simp_all

instance : LawfulMonad Logged := LawfulMonad.mk' Logged
  (fun x => ext rfl (List.append_nil x.events))
  (fun _ _ => ext rfl rfl)
  (fun _ _ _ => ext rfl (List.append_assoc _ _ _))

@[simp] theorem value_map (f : α → β) (x : Logged α) : (f <$> x).value = f x.value := rfl
@[simp] theorem events_map (f : α → β) (x : Logged α) : (f <$> x).events = x.events :=
  List.append_nil _

/-- Reports one event. -/
def report (event : Event) : Logged Unit :=
  ⟨(), [event]⟩

@[simp] theorem value_report (event : Event) : (report event).value = () := rfl
@[simp] theorem events_report (event : Event) : (report event).events = [event] := rfl

/-! ## Lists -/

theorem value_mapM (f : α → Logged β) (as : List α) :
    (as.mapM f).value = as.map fun a => (f a).value := by
  induction as with
  | nil => rfl
  | cons a as ih => rw [List.mapM_cons, value_bind, value_bind, value_pure, ih, List.map_cons]

theorem value_foldlM (f : β → α → Logged β) (b : β) (as : List α) :
    (as.foldlM f b).value = as.foldl (fun b a => (f b a).value) b := by
  induction as generalizing b with
  | nil => rfl
  | cons a as ih => rw [List.foldlM_cons, value_bind, ih, List.foldl_cons]

/-- The events of a list are those of its elements, in order. -/
theorem events_mapM (f : α → Logged β) (as : List α) :
    (as.mapM f).events = as.flatMap fun a => (f a).events := by
  induction as with
  | nil => rfl
  | cons a as ih =>
    rw [List.mapM_cons, events_bind, events_bind, events_pure, ih, List.append_nil,
      List.flatMap_cons]

end Logged

end HostVitals
