import Phrasebook.Network.Fetch

/-! # Attempts at a document

A document is asked for again while what came of the last request may pass and waits are left. What
came of the last request decides what is fetched.
-/

namespace Phrasebook.Network

/-! ## What may pass -/

/-- What may pass: a request without an answer, an answer that cannot be read to its end, and one
    whose status asks to come back later. -/
def Exchange.MayPass : Exchange → Prop
  | .notUrl | .notRequestable _ | .unanswered _ | .unreadable => True
  | .answered status _ => status = 408 ∨ status = 429 ∨ 500 ≤ status ∧ status < 600

/-- The document, or the failure to report when nothing else is attempted. -/
def Exchange.outcome (url : String) (exchange : Exchange) : Except Failure String :=
  match exchange.verdict with
  | .arrived text => .ok text
  | .refused message | .failed message _ => .error (.http url message)

/-- Ask for a document, and once more after each of some pauses: what came of every request, and the
    network afterwards. -/
def attempts (network : Network) (url : String) : List Nat → List Exchange × Network
  | [] => ([(network.get url).1], (network.get url).2)
  | pause :: later =>
      let others := ((network.get url).2.wait pause).attempts url later
      ((network.get url).1 :: others.1, others.2)

/-- What a server is asked when a document is asked for: nothing when the request cannot be made or
    no connection is. -/
def sent (network : Network) (text : String) : List String :=
  match Url.ofText? text with
  | none => []
  | some url =>
      if !url.isRequestable then []
      else if !network.connected then []
      else [url.request]

/-- A request goes on record if it reaches a server, and nothing is waited for. -/
theorem get_records (network : Network) (url : String) :
    (network.get url).2.waits = network.waits ∧
      (network.get url).2.connected = network.connected ∧
      (network.get url).2.requests = network.requests ++ network.sent url := by
  unfold get sent
  cases Url.ofText? url with
  | none => simp
  | some url =>
      dsimp only
      by_cases unmade : (!url.isRequestable) = true
      · simp only [if_pos unmade, List.append_nil, and_self]
      · simp only [if_neg unmade]
        by_cases unreached : (!network.connected) = true
        · simp only [if_pos unreached, List.append_nil, and_self]
        · simp only [if_neg unreached, and_self]

theorem attempts_records (network : Network) (url : String) (pauses : List Nat) :
    (network.attempts url pauses).2.waits = network.waits ++ pauses ∧
      (network.attempts url pauses).2.requests =
        network.requests ++ (List.replicate (pauses.length + 1) (network.sent url)).flatten := by
  induction pauses generalizing network with
  | nil =>
      obtain ⟨waits, -, requests⟩ := network.get_records url
      simp [attempts, waits, requests]
  | cons pause later ih =>
      obtain ⟨waits, connected, requests⟩ := network.get_records url
      obtain ⟨laterWaits, laterRequests⟩ := ih ((network.get url).2.wait pause)
      have sent : ((network.get url).2.wait pause).sent url = network.sent url := by
        simp only [Network.sent, wait, connected]
      rw [attempts, laterWaits, laterRequests, sent]
      simp [wait, waits, requests, List.replicate_succ]

/-- A document is asked for again after waits of a budget, from its first on: just as long as what
    came of the last request may pass and the budget is not spent. -/
structure Attempted (network : Network) (url : String) (budget pauses : List Nat)
    (passing : List Exchange) (last : Exchange) (after : Network) : Prop where
  within : pauses <+: budget
  exchanges : network.attempts url pauses = (passing ++ [last], after)
  passes : ∀ exchange ∈ passing, exchange.MayPass
  spent : last.MayPass → pauses = budget

namespace Attempted

variable {network after : Network} {url : String} {budget pauses : List Nat}
  {passing : List Exchange} {last : Exchange}

theorem once (spent : (network.get url).1.MayPass → budget = []) :
    network.Attempted url budget [] [] (network.get url).1 (network.get url).2 :=
  ⟨List.nil_prefix, rfl, List.forall_mem_nil _, fun passing => (spent passing).symm⟩

theorem again {pause : Nat} (passes : (network.get url).1.MayPass)
    (later : ((network.get url).2.wait pause).Attempted url budget pauses passing last after) :
    network.Attempted url (pause :: budget) (pause :: pauses) ((network.get url).1 :: passing) last
      after := by
  refine ⟨List.cons_prefix_cons.mpr ⟨rfl, later.within⟩, ?_, ?_, fun passing => ?_⟩
  · rw [attempts, later.exchanges]
    rfl
  · exact List.forall_mem_cons.mpr ⟨passes, later.passes⟩
  · rw [later.spent passing]

theorem waits (attempted : network.Attempted url budget pauses passing last after) :
    after.waits = network.waits ++ pauses := by
  have kept := (network.attempts_records url pauses).1
  rwa [attempted.exchanges] at kept

theorem requests (attempted : network.Attempted url budget pauses passing last after) :
    after.requests =
      network.requests ++ (List.replicate (pauses.length + 1) (network.sent url)).flatten := by
  have kept := (network.attempts_records url pauses).2
  rwa [attempted.exchanges] at kept

end Attempted

/-! ## Fetching -/

end Phrasebook.Network
