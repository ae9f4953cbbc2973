import RemotePlayback.Proofs.Backend.Directory
import RemotePlayback.Proofs.Backend.Requests
import RemotePlayback.Proofs.Session.Connections
import RemotePlayback.Proofs.Session.Pause

/-! An attempt keeps to its endpoints.

The base URL of the backend is set from attempt to attempt, while reports and commands go out at any
time. What keeps them together is the order of an attempt: the directory answers once, before there
is a connection, and only its answer sets the base URL, so that the base URL is the one of this
attempt for as long as anything goes out on it. `Pointed` says so stage by stage. -/

namespace RemotePlayback.Session

open Playback Dealer

variable {config : Config} {now : Int64} {ms past rest : List Moment} {m : Moment}
  {s s' : Session} {i : Input} {effects : List Effect} {epoch : Nat} {initial url : String}
  {e : Endpoints}

/-! ## The base URL -/

/-- The base URL of the backend after an effect. -/
def Effect.base (base : String) : Effect → String
  | .repoint url => url
  | _ => base

/-- **The base URL of the backend**, which was an initial one at first. -/
def baseUrl (initial : String) (ms : List Moment) : String :=
  (ms.flatMap (·.effects)).foldl Effect.base initial

theorem baseUrl_append (initial : String) (ms : List Moment) (m : Moment) :
    baseUrl initial (ms ++ [m]) = m.effects.foldl Effect.base (baseUrl initial ms) := by
  simp [baseUrl]

theorem foldl_base_of_kept (base : String) (kept : ∀ url, .repoint url ∉ effects) :
    effects.foldl Effect.base base = base := by
  induction effects with
  | nil => rfl
  | cons effect effects ih =>
    have same : Effect.base base effect = base := by
      cases effect with
      | repoint url => exact absurd List.mem_cons_self (kept url)
      | _ => rfl
    rw [List.foldl_cons, same]
    exact ih fun url mem => kept url (List.mem_cons_of_mem _ mem)

/-! ## The answers of the directory -/

/-- The answer of the directory, where an input is one. -/
def Input.resolution? : Input → Option (Except Failure Endpoints)
  | .resolved answer => some answer
  | _ => none

theorem resolution?_eq_some_iff {answer : Except Failure Endpoints} :
    i.resolution? = some answer ↔ i = .resolved answer := by
  cases i <;> simp [Input.resolution?]

/-- **The answers of the directory on an attempt.** -/
def resolutions (ms : List Moment) (epoch : Nat) : List (Except Failure Endpoints) :=
  (during ms epoch).filterMap (·.input.resolution?)

theorem resolutions_append (ms more : List Moment) (epoch : Nat) :
    resolutions (ms ++ more) epoch = resolutions ms epoch ++ resolutions more epoch := by
  simp [resolutions, during]

theorem resolutions_append_of_other (ms : List Moment)
    (other : m.before.epoch = epoch → m.input.resolution? = none) :
    resolutions (ms ++ [m]) epoch = resolutions ms epoch := by
  have nothing : resolutions [m] epoch = [] := by
    refine List.filterMap_eq_nil_iff.mpr fun m' mem => ?_
    obtain ⟨here, on⟩ := mem_during.mp mem
    obtain rfl := List.mem_singleton.mp here
    exact other on
  rw [resolutions_append, nothing, List.append_nil]

theorem resolutions_append_of_resolved {answer : Except Failure Endpoints} (ms : List Moment)
    (input : m.input = .resolved answer) :
    resolutions (ms ++ [m]) m.before.epoch = resolutions ms m.before.epoch ++ [answer] := by
  have one : resolutions [m] m.before.epoch = [answer] := by
    simp [resolutions, during, input, Input.resolution?]
  rw [resolutions_append, one]

/-- There are no answers yet on an attempt to come. -/
theorem resolutions_eq_nil (past : ∀ m ∈ ms, m.before.epoch < epoch) :
    resolutions ms epoch = [] := by
  rw [resolutions, during_eq_nil past, List.filterMap_nil]

/-! ## One step -/

/-- Endpoints that were found are used at once. -/
theorem step?_found (step : s.step? (.resolved (.ok e)) = some (s', effects)) :
    s.stage = .resolving ∧ s'.stage = .authorizing e.dealerUrl ∧
      effects = [.repoint e.backendUrl, .authorize] := by
  obtain ⟨stage, made⟩ := Option.ite_none_right_eq_some.mp step
  cases made
  exact ⟨stage, rfl, rfl⟩

/-- An attempt without endpoints is over. -/
theorem step?_unfound {cause : Failure}
    (step : s.step? (.resolved (.error cause)) = some (s', effects)) :
    s.stage = .resolving ∧ s'.stage.phase = .down ∧ effects = [] := by
  obtain ⟨stage, made⟩ := Option.ite_none_right_eq_some.mp step
  cases made
  exact ⟨stage, finish_phase s, rfl⟩

/-- Nothing but endpoints that were found sets the base URL. -/
theorem step?_base (base : String) (step : s.step? i = some (s', effects))
    (other : ∀ e, i ≠ .resolved (.ok e)) : effects.foldl Effect.base base = base := by
  apply foldl_base_of_kept
  intro url mem
  obtain ⟨e, found, -⟩ := step?_repoint step mem
  exact other e found

/-- Whether the endpoints of an attempt are still to be found, or to be used. -/
def Stage.IsEarly : Stage → Prop
  | .resolving | .authorizing _ => True
  | _ => False

theorem Stage.IsEarly.seeking {stage : Stage} (early : stage.IsEarly) : stage.phase = .seeking := by
  cases stage with
  | resolving | authorizing => rfl
  | _ => exact early.elim

/-- Its own turn is to give the attempt up, when it was cancelled. -/
theorem Proceeds.gives_up {r : Result} (proceeds : Proceeds s r)
    (seeking : s.stage.phase = .seeking) : r = s.finish := by
  cases proceeds with
  | abandon | finish => rfl
  | lose stage =>
    rcases stage with ⟨id, stage⟩ | stage <;>
      · rw [stage] at seeking
        cases seeking
  | leave stage | adopt stage | replied stage | stuck stage | close stage | letGo stage
    | stop stage =>
    rw [stage] at seeking
    cases seeking

/-- Without an answer of the directory a session that seeks a connection stays where it is, goes on
from the endpoints, or gives the attempt up. -/
theorem step?_onward {r : Result} (step : s.step? i = some r) (seeking : s.stage.phase = .seeking)
    (other : i.resolution? = none) :
    r.1.stage = s.stage ∨ s.stage ≠ .resolving ∧ ¬r.1.stage.IsEarly ∨ r.1.stage.phase = .down := by
  cases step?_steps step with
  | resolved => cases other
  | @authorized _ answer stage =>
    cases answer with
    | error cause => exact .inr (.inr (finish_phase s))
    | ok token =>
      refine .inr (.inl ⟨fun resolving => ?_, id⟩)
      cases stage.symm.trans resolving
  | @connected answer stage =>
    cases answer with
    | error cause => exact .inr (.inr (finish_phase s))
    | ok _ =>
      refine .inr (.inl ⟨fun resolving => ?_, id⟩)
      cases stage.symm.trans resolving
  | received reads =>
    rcases reads.stage with stage | stage <;>
      · rw [stage] at seeking
        cases seeking
  | announced stage | delivered stage | wake stage =>
    rw [stage] at seeking
    cases seeking
  | proceed proceeds =>
    rw [proceeds.gives_up seeking]
    exact .inr (.inr (finish_phase s))
  | write | wrote | ping | endKeepalive | tick | wallClock | cancel | report | reported | command =>
    exact .inl (step?_stage step id)

/-! ## Stage by stage -/

/-- **Which endpoints an attempt has**, stage by stage: at first the directory has not answered yet;
once it has, its endpoints are the ones that are used; and without endpoints an attempt is over. -/
inductive Pointed (initial : String) (ms : List Moment) (s : Session) : Prop where
  | asking (stage : s.stage = .resolving) (unanswered : resolutions ms s.epoch = [])
  | found {e : Endpoints} (answered : resolutions ms s.epoch = [.ok e])
      (dealer : s.stage.IsEarly → s.stage = .authorizing e.dealerUrl)
      (backend : baseUrl initial ms = e.backendUrl)
  | ended (down : s.stage.phase = .down)

/-- An attempt that has its endpoints asks for no others. -/
theorem unresolved_of_found (step : s.step? i = some (s', effects))
    (dealer : s.stage.IsEarly → s.stage = .authorizing url) : i.resolution? = none := by
  cases resolution : i.resolution? with
  | none => rfl
  | some answer =>
    obtain rfl := resolution?_eq_some_iff.mp resolution
    obtain ⟨stage, -⟩ := Option.ite_none_right_eq_some.mp step
    have early : s.stage.IsEarly := by rw [stage]; trivial
    cases stage.symm.trans (dealer early)

/-- It connects to its dealer, and to none once it has gone on from there. -/
theorem dealer_of_found (step : s.step? i = some (s', effects)) (same : s'.epoch = s.epoch)
    (other : i.resolution? = none) (dealer : s.stage.IsEarly → s.stage = .authorizing url)
    (early : s'.stage.IsEarly) : s'.stage = .authorizing url := by
  rcases step?_epoch_of_seeking step (by rw [rank, early.seeking]; rfl) with later | ⟨before, -⟩
  · omega
  · rcases step?_onward step (seeking_of_rank before) other with stays | ⟨-, past⟩ | down
    · rw [stays] at early ⊢
      exact dealer early
    · exact absurd early past
    · cases early.seeking.symm.trans down

/-- What is known of the endpoints is known after every step of the attempt. -/
theorem Pointed.step (h : Pointed initial ms s) (step : s.step? i = some (s', effects))
    (same : s'.epoch = s.epoch) : Pointed initial (ms ++ [⟨s, i, s', effects⟩]) s' := by
  cases h with
  | asking stage unanswered =>
    cases resolution : i.resolution? with
    | some answer =>
      obtain rfl := resolution?_eq_some_iff.mp resolution
      cases answer with
      | ok e =>
        obtain ⟨-, stage', rfl⟩ := step?_found step
        refine .found (e := e) ?_ (fun _ => stage') ?_
        · rw [same, resolutions_append_of_resolved ms rfl, unanswered, List.nil_append]
        · rw [baseUrl_append]
          rfl
      | error cause => exact .ended (step?_unfound step).2.1
    | none =>
      have seeking : s.stage.phase = .seeking := by rw [stage]; rfl
      rcases step?_onward step seeking resolution with stays | ⟨past, -⟩ | down
      · refine .asking (stays.trans stage) ?_
        rw [same, resolutions_append_of_other ms fun _ => resolution, unanswered]
      · exact absurd stage past
      · exact .ended down
  | @found e answered dealer backend =>
    have other := unresolved_of_found step dealer
    refine .found (e := e) ?_ (dealer_of_found step same other dealer) ?_
    · rw [same, resolutions_append_of_other ms fun _ => other, answered]
    · rw [baseUrl_append, ← backend]
      apply step?_base _ step
      rintro e rfl
      cases other
  | ended down => exact .ended (down_of_down step down same)

theorem attempt_stage (resolves : s.config.resolves = true) : s.attempt.1.stage = .resolving := by
  simp [attempt, resolves]

/-- **What is known of the endpoints is known throughout a run**, where a directory is asked. -/
theorem Run.pointed (run : Run config now ms s) (resolves : config.resolves = true)
    (initial : String) : Pointed initial ms s := by
  induction run with
  | start => exact .asking (attempt_stage resolves) rfl
  | @step ms s i s' effects run step ih =>
    by_cases same : s'.epoch = s.epoch
    · exact ih.step step same
    · have begun : s' = s.attempt.1 := congrArg Prod.fst (run.begun step same).1
      have told : s.config = config := run.counted.config
      have earlier : ∀ m ∈ ms ++ [⟨s, i, s', effects⟩], m.before.epoch < s'.epoch := by
        rw [begun, attempt_epoch]
        refine forall_mem_concat (fun m mem => ?_) (Nat.lt_succ_self s.epoch)
        exact Nat.lt_succ_of_le (run.traced.past m mem)
      refine .asking ?_ (resolutions_eq_nil earlier)
      rw [begun, attempt_stage (told ▸ resolves)]

/-! ## What goes out -/

/-- While it is waited for, the answer was not given yet. -/
theorem Run.unanswered (run : Run config now ms s) (resolves : config.resolves = true)
    (stage : s.stage = .resolving) : resolutions ms s.epoch = [] := by
  have early : s.stage.IsEarly := by rw [stage]; trivial
  cases run.pointed resolves "" with
  | asking _ unanswered => exact unanswered
  | found _ dealer => cases stage.symm.trans (dealer early)
  | ended down => cases early.seeking.symm.trans down

/-- **The directory answers an attempt once.** -/
theorem Run.resolutions_le_one (run : Run config now ms s) (resolves : config.resolves = true)
    (epoch : Nat) : (resolutions ms epoch).length ≤ 1 := by
  induction run with
  | start => exact Nat.zero_le _
  | @step ms s i s' effects run step ih =>
    by_cases answered : s.epoch = epoch ∧ ∃ answer, i = .resolved answer
    · obtain ⟨rfl, answer, rfl⟩ := answered
      obtain ⟨stage, -⟩ := Option.ite_none_right_eq_some.mp step
      have first := run.unanswered resolves stage
      have one := resolutions_append_of_resolved (m := ⟨s, .resolved answer, s', effects⟩) ms rfl
      simp [one, first]
    · rw [resolutions_append_of_other ms]
      · exact ih
      · intro on
        cases resolution : i.resolution? with
        | none => rfl
        | some answer => exact absurd ⟨on, answer, resolution?_eq_some_iff.mp resolution⟩ answered

/-- **An answer that was given on an attempt is the only one.** -/
theorem Run.resolutions_eq (run : Run config now ms s) (resolves : config.resolves = true)
    {answer : Except Failure Endpoints} (answered : answer ∈ resolutions ms epoch) :
    resolutions ms epoch = [answer] := by
  have one := run.resolutions_le_one resolves epoch
  cases all : resolutions ms epoch with
  | nil =>
    rw [all] at answered
    cases answered
  | cons first others =>
    rw [all, List.length_cons] at one
    obtain rfl := List.length_eq_zero_iff.mp (Nat.le_zero.mp (Nat.le_of_succ_le_succ one))
    rw [all] at answered
    rw [List.mem_singleton.mp answered]

/-- **What is known of the endpoints** at any moment between the answer of the directory and the end
of the attempt. -/
theorem Run.found (run : Run config now ms s) (resolves : config.resolves = true)
    (initial : String) (split : ms = past ++ m :: rest) (asked : m.before.stage ≠ .resolving)
    (up : m.before.stage.phase ≠ .down) : ∃ e, resolutions ms m.before.epoch = [.ok e] ∧
      baseUrl initial past = e.backendUrl ∧
      (m.before.stage.IsEarly → m.before.stage = .authorizing e.dealerUrl) := by
  cases (run.moment split).1.pointed resolves initial with
  | asking stage => exact absurd stage asked
  | @found e answered dealer backend =>
    have given : .ok e ∈ resolutions ms m.before.epoch := by
      rw [split, resolutions_append, answered]
      exact List.mem_append_left _ (List.mem_singleton.mpr rfl)
    exact ⟨e, run.resolutions_eq resolves given, backend, dealer⟩
  | ended down => exact absurd down up

/-! ## Attempts and endpoints -/

theorem Gauge.backend_next (g : Gauge) (other : ∀ e, i ≠ .resolved (.ok e)) :
    (g.next i).backend = g.backend := by
  unfold Gauge.next
  split
  · rfl
  · rfl
  · rfl
  · exact absurd rfl (other _)
  · rfl

/-- **The backend that a session has is where its requests go.** -/
theorem Run.backend (run : Run config now ms s) (initial : String) :
    s.backend.getD initial = baseUrl initial ms := by
  induction run with
  | start =>
    have fresh : (Session.start config now).1.backend = none :=
      congrArg Gauge.backend (attempt_steady { config, now }).gauge
    rw [fresh]
    rfl
  | @step ms s i s' effects run step ih =>
    have moved : s'.backend = (s.gauge.next i).backend := congrArg Gauge.backend (step?_gauge step)
    rw [baseUrl_append, moved]
    by_cases found : ∃ e, i = .resolved (.ok e)
    · obtain ⟨e, rfl⟩ := found
      obtain ⟨-, -, rfl⟩ := step?_found step
      rfl
    · have other : ∀ e, i ≠ .resolved (.ok e) := fun e input => found ⟨e, input⟩
      rw [Gauge.backend_next _ other, step?_base _ step other]
      exact ih

/-- What the directory lists, with two dealers. -/
def listing : Json :=
  Json.ofMembers [("dealer", .array [.string "near", .string "far"]),
    ("spclient", .array [.string "backend"])]

/-- The endpoints that are made of it. -/
def listed : Endpoints :=
  Backend.endpoints ⟨"wss://old", "https://old"⟩ (some ⟨200, [], listing.bytes⟩)

end RemotePlayback.Session
