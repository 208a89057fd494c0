/-
Results with their events form a monad: how steps are grouped changes neither the result nor the order
of the events. The result of a chain of steps is found without looking at the events.
-/
import Gatehouse.Log.Event

namespace Gatehouse.Log

@[simp] theorem value_pure {α : Type} (a : α) : (pure a : Logged α).value = a := rfl

@[simp] theorem value_bind {α β : Type} (x : Logged α) (f : α → Logged β) : (x >>= f).value = (f x.value).value := rfl

@[simp] theorem events_pure {α : Type} (a : α) : (pure a : Logged α).events = [] := rfl

@[simp] theorem events_bind {α β : Type} (x : Logged α) (f : α → Logged β) :
    (x >>= f).events = x.events ++ (f x.value).events := rfl

theorem Logged.eq_of {α : Type} {x y : Logged α} (hvalue : x.value = y.value) (hevents : x.events = y.events) :
    x = y := by
  cases x
  cases y
  cases hvalue
  cases hevents
  rfl

instance : LawfulMonad Logged := by
  refine LawfulMonad.mk' Logged ?_ ?_ ?_
  · intro α x
    exact Logged.eq_of rfl (List.append_nil x.events)
  · intro α β a f
    refine Logged.eq_of rfl ?_
    rw [events_bind, events_pure, List.nil_append, value_pure]
  · intro α β γ x f g
    refine Logged.eq_of rfl ?_
    simp only [events_bind, value_bind, List.append_assoc]

@[simp] theorem value_map {α β : Type} (f : α → β) (x : Logged α) : (f <$> x).value = f x.value := rfl

end Gatehouse.Log
