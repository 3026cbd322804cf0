/-!
# Jobs

A job is what one thread does, as the steps at which other threads can come in between: reading and
changing the shared memory, and asking the pool for something. What a thread does between two
steps concerns nobody else, and is part of the second one.

## Main definitions

* `Payload`: what a panicking job throws
* `Job`: a job with tasks `τ`, memory `σ` and result `α`
* `Job.bind`: one job after another
* `Job.forEach`: a job for each element of a list
* `Job.runAll`: submits tasks and waits for them
-/

namespace Concordance

/-- What a panicking job throws: a text, or something that is no text. -/
inductive Payload where
  | text (message : String)
  | other
deriving DecidableEq, Repr, Inhabited

/-- The text that is logged for a panic. -/
def Payload.message : Payload → String
  | .text message => message
  | .other => "non-string panic payload"

/-- What one thread does. -/
inductive Job (τ σ α : Type) where
  /-- The job is done. -/
  | finish (value : α)
  /-- The job breaks off. -/
  | panic (payload : Payload)
  /-- The memory changes in one step; the rest of the job may depend on what it was before. -/
  | atomically (change : σ → σ) (next : σ → Job τ σ α)
  /-- The job waits until the memory has a property. -/
  | await (ready : σ → Bool) (next : Job τ σ α)
  /-- The job offers a task to the pool; the rest may depend on whether it was accepted. -/
  | submit (task : τ) (next : Bool → Job τ σ α)
  /-- The job waits until no task is pending. -/
  | awaitIdle (next : Job τ σ α)
  /-- The job makes the pool refuse further tasks. -/
  | shutdown (next : Job τ σ α)
  /-- The job waits until the workers that nobody waited for before have exited. -/
  | joinWorkers (next : Job τ σ α)

namespace Job

variable {τ σ α β : Type}

/-- One job after another. -/
def bind : Job τ σ α → (α → Job τ σ β) → Job τ σ β
  | finish value, f => f value
  | panic payload, _ => panic payload
  | atomically change next, f => atomically change fun memory => (next memory).bind f
  | await ready next, f => await ready (next.bind f)
  | submit task next, f => submit task fun accepted => (next accepted).bind f
  | awaitIdle next, f => awaitIdle (next.bind f)
  | shutdown next, f => shutdown (next.bind f)
  | joinWorkers next, f => joinWorkers (next.bind f)

theorem bind_finish (job : Job τ σ α) : job.bind finish = job := by
  induction job with
  | finish | panic => rfl
  | atomically _ _ ih => exact congrArg _ (funext ih)
  | submit _ _ ih => exact congrArg _ (funext ih)
  | await _ _ ih | awaitIdle _ ih | shutdown _ ih | joinWorkers _ ih => exact congrArg _ ih

theorem bind_assoc {γ : Type} (job : Job τ σ α) (f : α → Job τ σ β) (g : β → Job τ σ γ) :
    (job.bind f).bind g = job.bind fun value => (f value).bind g := by
  induction job with
  | finish | panic => rfl
  | atomically _ _ ih => exact congrArg _ (funext ih)
  | submit _ _ ih => exact congrArg _ (funext ih)
  | await _ _ ih | awaitIdle _ ih | shutdown _ ih | joinWorkers _ ih => exact congrArg _ ih

instance : Monad (Job τ σ) where
  pure := finish
  bind := bind

/-- A job that changes the memory. -/
def modify (change : σ → σ) : Job τ σ Unit :=
  atomically change fun _ => finish ()

/-- A job that looks at the memory. -/
def look (view : σ → α) : Job τ σ α :=
  atomically id fun memory => finish (view memory)

/-- A job that offers a task to the pool, and says whether it was accepted. -/
def offer (task : τ) : Job τ σ Bool :=
  submit task finish

/-- A job that waits until no task is pending. -/
def idle : Job τ σ Unit :=
  awaitIdle (finish ())

/-- A job that waits until no task is pending, shuts the pool down and waits for its workers. -/
def joinAll : Job τ σ Unit :=
  awaitIdle (shutdown (joinWorkers (finish ())))

/-- A job for each element of a list, one after the other. -/
def forEach (act : β → Job τ σ Unit) : List β → Job τ σ Unit
  | [] => finish ()
  | x :: rest => (act x).bind fun _ => forEach act rest

/-- A job that submits tasks until one is refused, and says whether all were accepted. -/
def submitAll : List τ → Job τ σ Bool
  | [] => finish true
  | task :: rest => submit task fun accepted => if accepted then submitAll rest else finish false

/-- A job that submits tasks and waits until no task is pending. If one is refused, it breaks off
without waiting for those before. -/
def runAll (tasks : List τ) : Job τ σ Bool :=
  (submitAll tasks).bind fun accepted => if accepted then awaitIdle (finish true) else finish false

end Job

end Concordance
