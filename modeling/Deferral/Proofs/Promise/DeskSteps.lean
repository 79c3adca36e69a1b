import Deferral.Promise.Desk
import Deferral.Proofs.Promise.Classification

/-!
# Steps at a desk

What a step on one promise does to a desk, to the other promises on it and to the world, whatever
runs the listeners. The state of the promise decides each of these steps completely.
-/

namespace Deferral

namespace Desk

variable {ω κ ε α : Type} {desk : Desk ω κ ε α} {number other : Nat}

/-! ## One promise of a desk -/

/-- A desk keeps as many promises when one is changed. -/
@[simp] theorem length_put (desk : Desk ω κ ε α) (number : Nat) (shared : DeskShared ω κ ε α) :
    (desk.put number shared).promises.length = desk.promises.length :=
  List.length_set

/-- A promise that was put on a desk is found there. -/
@[simp] theorem shared_put (h : number < desk.promises.length) (shared : DeskShared ω κ ε α) :
    (desk.put number shared).shared number = shared := by
  simp only [Desk.shared, put, List.getElem?_set_self h, Option.getD_some]

/-- The other promises are as they were. -/
@[simp] theorem shared_put_of_ne (h : other ≠ number) (shared : DeskShared ω κ ε α) :
    (desk.put number shared).shared other = desk.shared other := by
  simp only [Desk.shared, put, List.getElem?_set_ne h.symm]

/-- Of two promises that are put in the same place, the second stays. -/
@[simp] theorem put_put (desk : Desk ω κ ε α) (number : Nat) (first second : DeskShared ω κ ε α) :
    (desk.put number first).put number second = desk.put number second := by
  simp only [put, List.set_set]

/-- To put a promise where it is changes nothing. -/
@[simp] theorem put_shared (desk : Desk ω κ ε α) (number : Nat) :
    desk.put number (desk.shared number) = desk := by
  unfold put Desk.shared
  congr 1
  refine List.ext_getElem? fun index => ?_
  rw [List.getElem?_set]
  split
  · next h =>
    subst h
    cases hpromise : desk.promises[number]? with
    | none =>
      rw [List.getElem?_eq_none_iff] at hpromise
      rw [if_neg (by omega)]
    | some shared =>
      obtain ⟨hlt, -⟩ := List.getElem?_eq_some_iff.1 hpromise
      rw [if_pos hlt, Option.getD_some]
  · rfl

/-- A promise that is not settled is on the desk. -/
theorem lt_of_not_isSettled (h : (desk.shared number).cell.isSettled = false) :
    number < desk.promises.length := by
  refine Nat.lt_of_not_le fun hle => ?_
  rw [Desk.shared, List.getElem?_eq_none hle] at h
  cases h

/-- The desk with one more promise. -/
def grown (desk : Desk ω κ ε α) : Desk ω κ ε α :=
  { desk with promises := desk.promises ++ [.fresh] }

/-- A desk that has grown keeps one promise more. -/
@[simp] theorem length_grown (desk : Desk ω κ ε α) :
    desk.grown.promises.length = desk.promises.length + 1 := by
  simp [grown]

/-- The promise that is added is a new one. -/
@[simp] theorem shared_grown (desk : Desk ω κ ε α) :
    desk.grown.shared desk.promises.length = .fresh := by
  simp [grown, Desk.shared]

/-- The promises before it are as they were. -/
@[simp] theorem shared_grown_of_lt (h : number < desk.promises.length) :
    desk.grown.shared number = desk.shared number := by
  simp [grown, Desk.shared, List.getElem?_append_left h]

/-- A new promise grows the desk. -/
theorem addPromise_apply (desk : Desk ω κ ε α) (world : World ω κ) :
    addPromise (desk, world) = (.done desk.promises.length, desk.grown, world) := rfl

/-! ## Settling, dropping and notifying -/

variable {notify : Notify ω κ ε α} {outcome : Outcome ε (Payload ε α)} {world : World ω κ}

/-- A settle comes too late for a settled promise. -/
theorem settleWith_of_isSettled (h : (desk.shared number).cell.isSettled = true) :
    settleWith notify number outcome (desk, world) = (.done false, desk, world) := by
  have hcell : Shared.onCell (Cell.settle outcome) (desk.shared number) =
      (none, desk.shared number) := by
    rcases hshared : desk.shared number with ⟨_ | first | _, completers⟩
    · simp [hshared, Cell.isSettled] at h
    · rfl
    · rfl
  simp only [settleWith, Act.bind_apply, atShared, hcell, put_shared, Act.pure_apply]

/-- Without a listener the promise keeps the outcome, and the waker is woken. -/
theorem settleWith_of_unheard (waker : Option (Run ω κ Unit))
    (h : (desk.shared number).cell = .pending none waker) :
    settleWith notify number outcome (desk, world) =
      ((waker.getD (pure ())).beside >>= fun _ => pure true : DeskRun ω κ ε α Bool)
        (desk.put number { desk.shared number with cell := .ready outcome }, world) := by
  cases waker with
  | none =>
    simp only [settleWith, Act.bind_apply, atShared, Shared.onCell, h, Cell.settle, discharge,
      Option.getD_none]
    rfl
  | some waker =>
    simp only [settleWith, Act.bind_apply, atShared, Shared.onCell, h, Cell.settle, discharge,
      Option.getD_some]

/-- With a listener the promise hands the outcome on. -/
theorem settleWith_of_heard {listener : Listener ω κ ε α} {waker : Option (Run ω κ Unit)}
    (h : (desk.shared number).cell = .pending (some listener) waker) :
    settleWith notify number outcome (desk, world) =
      (notify listener outcome >>= fun _ => pure true : DeskRun ω κ ε α Bool)
        (desk.put number { desk.shared number with cell := .taken }, world) := by
  simp only [settleWith, Act.bind_apply, atShared, Shared.onCell, h, Cell.settle, discharge]

/-- The drop of one completer of many only counts it out. -/
theorem dropWith_of_ne_one (h : (desk.shared number).completers ≠ 1) :
    dropWith notify number (desk, world) =
      (.done (), desk.put number (desk.shared number).release.2, world) := by
  have hlast : (desk.shared number).release.1 = false := by simp [Shared.release, h]
  simp only [dropWith, Act.bind_apply, atShared, hlast]
  rfl

/-- The drop of the last completer settles the promise with the error of a broken promise. -/
theorem dropWith_of_one (h : (desk.shared number).completers = 1) :
    dropWith notify number (desk, world) =
      (settleWith notify number (.error .abandoned) >>= fun _ => pure () : DeskRun ω κ ε α Unit)
        (desk.put number (desk.shared number).release.2, world) := by
  have hlast : (desk.shared number).release.1 = true := by simp [Shared.release, h]
  simp only [dropWith, Act.bind_apply, atShared, hlast]
  rfl

/-- A drop counts a completer out and leaves a settled promise as it is. -/
theorem dropWith_of_isSettled (h : (desk.shared number).cell.isSettled = true)
    (hnumber : number < desk.promises.length) :
    dropWith notify number (desk, world) =
      (.done (), desk.put number (desk.shared number).release.2, world) := by
  by_cases hone : (desk.shared number).completers = 1
  · rw [dropWith_of_one hone, Act.bind_apply, settleWith_of_isSettled]
    · rfl
    · rwa [shared_put hnumber]
  · exact dropWith_of_ne_one hone

/-- The last part runs after a first part that is done or panicked, and a panic goes on after it. -/
theorem andFinally_apply (act last : DeskRun ω κ ε α Unit) (whole : Desk ω κ ε α × World ω κ) :
    andFinally act last whole =
      match act whole with
      | (.done (), whole) => last whole
      | (.panicked alarm, whole) => (last >>= fun _ => .panic alarm) whole
      | (.unfinished, whole) => (.unfinished, whole) := by
  simp only [andFinally, Act.bind_apply, Act.catchPanic]
  rcases act whole with ⟨_ | _ | _, after⟩ <;> rfl

/-- A settle at the desk has room for one listener of each promise. -/
theorem settle_apply (number : Nat) (outcome : Outcome ε (Payload ε α)) (desk : Desk ω κ ε α)
    (world : World ω κ) :
    settle number outcome (desk, world) =
      settleWith (Desk.notify desk.promises.length) number outcome (desk, world) := rfl

/-- A drop at the desk has room for one listener of each promise. -/
theorem dropCompleter_apply (number : Nat) (desk : Desk ω κ ε α) (world : World ω κ) :
    dropCompleter number (desk, world) =
      dropWith (Desk.notify desk.promises.length) number (desk, world) := rfl

/-- A promise that has been settled from the start keeps its outcome, and has no completer left. -/
theorem settled_apply (outcome : Outcome ε (Payload ε α)) (desk : Desk ω κ ε α)
    (world : World ω κ) :
    settled outcome (desk, world) =
      (.done desk.promises.length,
        desk.grown.put desk.promises.length ⟨.ready outcome, 0⟩, world) := by
  have hnumber : desk.promises.length < desk.grown.promises.length := by simp
  simp only [settled, Act.bind_apply, addPromise_apply, settle_apply]
  rw [settleWith_of_unheard none (by rw [shared_grown]; rfl), shared_grown]
  simp only [Act.bind_apply, Option.getD_none, Act.beside, Act.pure_apply, dropCompleter_apply]
  rw [dropWith_of_isSettled (by rw [shared_put hnumber]; rfl) (by simp), shared_put hnumber,
    put_put]
  rfl

/-! ## Polling and bridging -/

/-- A poll of a pending promise leaves its waker there. -/
theorem poll_of_pending {listener : Option (Listener ω κ ε α)} {former : Option (Run ω κ Unit)}
    (waker : Run ω κ Unit) (h : (desk.shared number).cell = .pending listener former) :
    poll number waker (desk, world) =
      (.done none,
        desk.put number { desk.shared number with cell := .pending listener (some waker) },
        world) := by
  simp only [poll, Act.bind_apply, atShared, Shared.onCell, h, Cell.poll, Act.pure_apply]

/-- A poll of a promise that is ready takes the outcome. -/
theorem poll_of_ready (waker : Run ω κ Unit) (h : (desk.shared number).cell = .ready outcome) :
    poll number waker (desk, world) =
      (.done (some outcome), desk.put number { desk.shared number with cell := .taken },
        world) := by
  simp only [poll, Act.bind_apply, atShared, Shared.onCell, h, Cell.poll, Act.pure_apply]

/-- A poll panics when the outcome has been handed out before. -/
theorem poll_of_taken (waker : Run ω κ Unit) (h : (desk.shared number).cell = .taken) :
    poll number waker (desk, world) = (.panicked (.message spentText), desk, world) := by
  have hcell : Shared.onCell (Cell.poll waker) (desk.shared number) =
      (.spent, desk.shared number) := by
    rcases hshared : desk.shared number with ⟨cell, completers⟩
    rw [hshared] at h
    obtain rfl : cell = .taken := h
    rfl
  simp only [poll, Act.bind_apply, atShared, hcell, put_shared, Act.panic]

variable (type : FailureType ω κ ε)

/-- A bridge over a pending promise waits for its outcome. -/
theorem bridge_of_pending {listener : Option (Listener ω κ ε α)} {former : Option (Run ω κ Unit)}
    (hnumber : number < desk.promises.length)
    (h : (desk.shared number).cell = .pending listener former) :
    bridge type number (desk, world) =
      (.done desk.promises.length,
        desk.grown.put number
          { desk.shared number with
            cell := .pending (some (.bridge type desk.promises.length)) none },
        world) := by
  rw [← shared_grown_of_lt hnumber] at h ⊢
  simp only [bridge, Act.bind_apply, addPromise_apply, listen, atShared, Shared.onCell, h,
    Cell.listen, Act.pure_apply]

/-- A bridge over a promise that is ready takes its outcome and runs at once. -/
theorem bridge_of_ready (hnumber : number < desk.promises.length)
    (h : (desk.shared number).cell = .ready outcome) :
    bridge type number (desk, world) =
      (Desk.notify (desk.promises.length + 1) (.bridge type desk.promises.length) outcome >>=
          fun _ => pure desk.promises.length : DeskRun ω κ ε α Nat)
        (desk.grown.put number { desk.shared number with cell := .taken }, world) := by
  rw [← shared_grown_of_lt hnumber] at h ⊢
  simp only [bridge, Act.bind_apply, addPromise_apply, listen, withListeners, look, Act.read,
    atShared, Shared.onCell, h, Cell.listen, length_put, length_grown]

/-- A bridge over a promise whose outcome is gone fails its output with the error of a broken
promise. -/
theorem bridge_of_taken (hnumber : number < desk.promises.length)
    (h : (desk.shared number).cell = .taken) :
    bridge type number (desk, world) =
      (.done desk.promises.length,
        desk.grown.put desk.promises.length ⟨.ready (.error .abandoned), 0⟩, world) := by
  have hcell : Shared.onCell (Cell.listen (.bridge type desk.promises.length))
      (desk.grown.shared number) = (.never, desk.grown.shared number) := by
    rw [← shared_grown_of_lt hnumber] at h
    rcases hshared : desk.grown.shared number with ⟨cell, completers⟩
    rw [hshared] at h
    obtain rfl : cell = .taken := h
    rfl
  have houtput : desk.promises.length < desk.grown.promises.length := by simp
  have hdrop : dropCompleter desk.promises.length (desk.grown, world) =
      (.done (), desk.grown.put desk.promises.length ⟨.ready (.error .abandoned), 0⟩, world) := by
    simp only [dropCompleter, withListeners, look, Act.read, Act.bind_apply]
    rw [dropWith_of_one (by rw [shared_grown]; rfl), Act.bind_apply,
      settleWith_of_unheard none (by rw [shared_put houtput, shared_grown]; rfl),
      shared_put houtput, put_put, shared_grown]
    rfl
  simp only [bridge, Act.bind_apply, addPromise_apply, listen, atShared, hcell, put_shared, hdrop,
    Act.pure_apply]

end Desk

end Deferral
