import LedgerTags.CommandLine.Run
import LedgerTags.Proofs.Outcome

/-!
# Steps of a command

A step that succeeds is followed by the rest of the command (`run_bind`), and one that ends the run
is followed by nothing (`run_bind_ending`). Loading a file that can be read changes nothing, and
steps that print a line each print the lines one after the other.
-/

namespace LedgerTags.CommandLine

variable {c : Console} {α β : Type}

/-- A command goes on with what its first part returns, from where that part leaves the console. -/
theorem run_bind {x : Action α} {f : α → Action β} {a : α} {c' : Console}
    (h : x.run c = (.ok a, c')) : (x >>= f).run c = (f a).run c' := by
  show (ExceptT.bindCont f (x.run c).1) (x.run c).2 = _
  rw [h]
  rfl

/-- A command whose first part ends it, ends there. -/
theorem run_bind_ending {x : Action α} {f : α → Action β} {ending : Ending} {c' : Console}
    (h : x.run c = (.error ending, c')) : (x >>= f).run c = (.error ending, c') := by
  show (ExceptT.bindCont f (x.run c).1) (x.run c).2 = _
  rw [h]
  rfl

/-- Loading a file that can be read returns its transactions and prints nothing. -/
theorem run_load {path : Text} {ts : List Transaction} (h : readFile c.files path = .ok ts) :
    (load path).run c = (.ok ts, c) := by
  have hfiles : files.run c = (.ok c.files, c) := rfl
  rw [load, run_bind hfiles, h]
  rfl

/-- Steps that print a line each print the lines one after the other. -/
theorem run_forM {xs : List α} {step : α → Action Unit} {line : α → Text}
    (h : ∀ x ∈ xs, ∀ c, (step x).run c = (.ok (), { c with output := c.output ++ [line x] }))
    (c : Console) :
    (xs.forM step).run c = (.ok (), { c with output := c.output ++ xs.map line }) := by
  induction xs generalizing c with
  | nil =>
    rw [List.map_nil, List.append_nil]
    rfl
  | cons x xs ih =>
    obtain ⟨hx, hxs⟩ := List.forall_mem_cons.1 h
    have hcons : (x :: xs).forM step = step x >>= fun _ => xs.forM step := rfl
    rw [hcons, run_bind (hx c), ih hxs, List.map_cons, List.append_assoc, List.singleton_append]

end LedgerTags.CommandLine
