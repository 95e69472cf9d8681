import Purse.Http.Api
import Purse.Proofs.AppendOnly
import Purse.Proofs.Refusal
import Purse.Proofs.Route

/-!
# Exchanges over HTTP

An exchange is one request and its response, without faults of the store. A request either is answered
without a look at the store, or stands for one operation, so the exchanges of a run leave what some steps
leave. Whatever the request, the response never blames the server, a request that is not granted has changed
nothing, and one that only looks at something has changed nothing either, except that it may have opened the
wallet that it asked for.
-/
namespace Purse
namespace Http

variable {α β : Type} {Q : α → Prop} {r : Request} {operation : Operation}

/-! ## Reading a request -/

/-- What was read satisfies a condition, or the response does not blame the server. -/
def Reads (Q : α → Prop) : Except Response α → Prop
  | .ok a => Q a
  | .error response => response.status < 500

theorem Reads.bind {x : Except Response α} {f : α → Except Response β} {Q' : β → Prop} (hx : Reads Q x)
    (hf : ∀ a, Q a → Reads Q' (f a)) : Reads Q' (x >>= f) := by
  cases x with
  | ok a => exact hf a hx
  | error response => exact hx

theorem reads_part (part : List Char) : Reads (percentDecode? part = some ·) (readPart part) := by
  unfold readPart
  split
  · assumption
  · simp [Reads]

theorem reads_user (text : String) : Reads (UserId.ofText? text = some ·) (readUser text) := by
  unfold readUser
  split
  · assumption
  · simp [Reads, refusal, ServiceError.status]

theorem reads_payment (text : String) : Reads (fun _ => True) (readPayment text) := by
  unfold readPayment
  split
  · trivial
  · simp [Reads, refusal, ServiceError.status]

theorem reads_provider (text : String) : Reads (fun _ => True) (readProvider text) := by
  unfold readProvider
  split
  · trivial
  · simp [Reads, refusal, ServiceError.status]

theorem reads_page (r : Request) : Reads (fun _ => True) r.readPage := by
  unfold Request.readPage
  split
  · trivial
  · simp [Reads]

theorem reads_body (r : Request) (α : Type) [Wire α] : Reads (fun _ => True) (r.readBody α) := by
  unfold Request.readBody
  split_ifs
  · simp [Reads]
  · simp [Reads]
  · split
    · trivial
    · simp only [Reads, unreadable]
      split_ifs <;> simp

/-- No request asks to charge a payment that is stored. -/
def Serves (operation : Operation) : Prop := ∀ id, operation ≠ .payFromWallet id

theorem Route.reads_resolve (r : Request) (route : Route) : Reads Serves (route.resolve r) := by
  cases route with
  | health => simp [Route.resolve, Reads]
  | document => simp [Route.resolve, Reads]
  | wallet part | balance part =>
      exact (reads_part part).bind fun text _ => (reads_user text).bind fun user _ => nofun
  | deposit part | withdraw part =>
      exact (reads_part part).bind fun text _ => (reads_body r _).bind fun body _ =>
        (reads_user text).bind fun user _ => nofun
  | history part | userPayments part =>
      exact (reads_part part).bind fun text _ => (reads_page r).bind fun page _ =>
        (reads_user text).bind fun user _ => nofun
  | payments => exact (reads_body r _).bind fun body _ => nofun
  | payment part | checkout part | refund part =>
      exact (reads_part part).bind fun text _ => (reads_payment text).bind fun id _ => nofun
  | webhook part =>
      exact (reads_part part).bind fun text _ => (reads_body r _).bind fun verdict _ =>
        (reads_provider text).bind fun _ _ => nofun

theorem reads_resolve (r : Request) : Reads Serves r.resolve := by
  unfold Request.resolve
  split
  · simp [Reads]
  · split_ifs
    · exact Route.reads_resolve r _
    · simp [Reads]

/-- Whatever the store, an operation leaves it as it is. -/
def Looks (operation : Operation) : Prop :=
  ∀ gateways draws, Service.ReadsOnly (operation.perform gateways draws)

/-- The wallet of the user whom a part of a path names. -/
def AsksForWallet (part : List Char) (operation : Operation) : Prop :=
  ∃ text user, percentDecode? part = some text ∧ UserId.ofText? text = some user ∧
    operation = .wallet user

/-- What can be got is looked at, and only a wallet is opened where it is asked for. -/
theorem Route.reads_resolve_get (r : Request) {route : Route} (h : route.method = .get) :
    Reads (fun operation => Looks operation ∨
      ∃ part, route = .wallet part ∧ AsksForWallet part operation) (route.resolve r) := by
  cases route with
  | health => simp [Route.resolve, Reads]
  | document => simp [Route.resolve, Reads]
  | wallet part =>
      exact (reads_part part).bind fun text htext => (reads_user text).bind fun user huser =>
        .inr ⟨part, rfl, text, user, htext, huser, rfl⟩
  | balance part =>
      exact (reads_part part).bind fun text _ => (reads_user text).bind fun user _ =>
        .inl fun _ _ => (Ledger.readsOnly_balance user).map
  | history part =>
      exact (reads_part part).bind fun text _ => (reads_page r).bind fun page _ =>
        (reads_user text).bind fun user _ => .inl fun _ _ => (Ledger.readsOnly_history user page).map
  | userPayments part =>
      exact (reads_part part).bind fun text _ => (reads_page r).bind fun page _ =>
        (reads_user text).bind fun user _ => .inl fun _ _ => (Service.readsOnly_look _ _).map
  | payment part =>
      exact (reads_part part).bind fun text _ => (reads_payment text).bind fun id _ =>
        .inl fun _ _ => (Settlement.readsOnly_find id).map
  | deposit | withdraw | payments | checkout | refund | webhook => cases h

theorem reads_resolve_get {r : Request} (h : r.method = .get ∨ r.method = .head) :
    Reads (fun operation => Looks operation ∨
      ∃ part, Route.ofPath? r.path = some (.wallet part) ∧ AsksForWallet part operation) r.resolve := by
  unfold Request.resolve
  split
  · simp [Reads]
  · rename_i route hroute
    split_ifs with haccepts
    · have hget : route.method = .get := by
        rcases h with h | h
        · simpa [Route.accepts, h, eq_comm] using haccepts
        · have hnot : route.method ≠ .head := by cases route <;> simp [Route.method]
          simpa [Route.accepts, h, hnot.symm] using haccepts
      have hreads := route.reads_resolve_get r hget
      simp only [hroute, Option.some.injEq]
      exact hreads
    · simp [Reads]

/-! ## Responses -/

theorem isSuccess_respond_ok (operation : Operation) (answer : Answer) :
    (respond operation (.ok answer)).isSuccess := by
  unfold respond
  split <;> simp_all [Response.isSuccess, acknowledged]

theorem status_respond_error (operation : Operation) {error : ServiceError} (h : error.IsRefusal) :
    (respond operation (.error error)).status < 500 := by
  have hrefusal : (refusal error).status < 500 := by
    unfold refusal
    split <;> exact h.status_lt
  unfold respond
  split <;> simp_all [acknowledged]

end Http

/-- A request with everything that decides how it is served, except the store. -/
structure Exchange where
  gateways : Gateways
  draws : Draws
  request : Http.Request

namespace Exchange

def served (x : Exchange) (s : Store) : Http.Response × World :=
  Http.serve x.gateways x.draws x.request ⟨s, []⟩

def response (x : Exchange) (s : Store) : Http.Response := (x.served s).1

/-- The store after the exchange. -/
def leaves (x : Exchange) (s : Store) : Store := (x.served s).2.store

/-- The operation of an exchange as a step without faults. -/
def step (x : Exchange) (operation : Operation) : Step := ⟨x.gateways, operation, x.draws, []⟩

variable {x : Exchange} {s : Store} {operation : Operation}

/-- The status and the world that a request leaves do not depend on whether it only looks. -/
theorem served_eq (x : Exchange) (s : Store) :
    (x.response s).status = (Http.serveFully x.gateways x.draws x.request ⟨s, []⟩).1.status ∧
      (x.served s).2 = (Http.serveFully x.gateways x.draws x.request ⟨s, []⟩).2 := by
  refine ⟨?_, rfl⟩
  simp only [response, served, Http.serve]
  split <;> rfl

theorem of_answered {response : Http.Response} (h : x.request.resolve = .error response) :
    (x.response s).status = response.status ∧ x.leaves s = s := by
  obtain ⟨hstatus, hworld⟩ := x.served_eq s
  rw [leaves, hstatus, hworld]
  simp only [Http.serveFully, h, and_self]

theorem of_performed_ok {answer : Answer} {u : World} (h : x.request.resolve = .ok operation)
    (hperform : operation.perform x.gateways x.draws ⟨s, []⟩ = .ok answer u) :
    (x.response s).status = (Http.respond operation (.ok answer)).status ∧ x.leaves s = u.store := by
  obtain ⟨hstatus, hworld⟩ := x.served_eq s
  rw [leaves, hstatus, hworld]
  simp only [Http.serveFully, h, hperform, and_self]

theorem of_performed_error {error : ServiceError} {u : World} (h : x.request.resolve = .ok operation)
    (hperform : operation.perform x.gateways x.draws ⟨s, []⟩ = .error error u) :
    (x.response s).status = (Http.respond operation (.error error)).status ∧ x.leaves s = u.store := by
  obtain ⟨hstatus, hworld⟩ := x.served_eq s
  rw [leaves, hstatus, hworld]
  simp only [Http.serveFully, h, hperform, and_self]

theorem leaves_of_resolve (h : x.request.resolve = .ok operation) :
    x.leaves s = (x.step operation).leaves s := by
  unfold Step.leaves Step.outcome step
  dsimp only
  cases hperform : operation.perform x.gateways x.draws ⟨s, []⟩ with
  | ok answer u => exact (of_performed_ok h hperform).2
  | error error u => exact (of_performed_error h hperform).2

/-- The exchange opens the wallet that its path asks for, of a user who had none. -/
def Opens (x : Exchange) (s : Store) : Prop :=
  ∃ part text user, x.request.path = "/api/users/".toList ++ part ++ "/wallet".toList ∧
    Http.percentDecode? part = some text ∧ UserId.ofText? text = some user ∧ s.walletOf? user = none ∧
    x.leaves s = { s with
      wallets := .ofWallet (.opened x.draws.walletId user (s.precision.cut x.draws.openedAt)) ::
        s.wallets }

theorem leaves_wallet (x : Exchange) (user : UserId) (s : Store) :
    (x.step (.wallet user)).leaves s = s ∨ s.walletOf? user = none ∧
      (x.step (.wallet user)).leaves s = { s with
        wallets := .ofWallet (.opened x.draws.walletId user (s.precision.cut x.draws.openedAt)) ::
          s.wallets } := by
  unfold Step.leaves
  cases h : (x.step (.wallet user)).outcome s with
  | ok answer u =>
      obtain ⟨w, h, -⟩ := Service.map_eq_ok.1 h
      have hopen := World.store_of_attempt_ok (Service.liftStore_eq_ok.1 h)
      rcases Store.of_openWallet hopen with ⟨row, -, -, hsame⟩ | ⟨hnone, -, -, hopened⟩
      · exact .inl hsame
      · exact .inr ⟨hnone, hopened⟩
  | error error u =>
      obtain ⟨cause, hopen, -⟩ := Service.liftStore_eq_error.1 (Service.map_eq_error.1 h)
      exact .inl (World.store_of_attempt_error hopen)

/-- What every request can rely on. -/
structure Harmless (x : Exchange) (s : Store) : Prop where
  status_lt : (x.response s).status < 500
  refused : ¬ (x.response s).isSuccess → x.leaves s = s
  looking : x.request.method = .get ∨ x.request.method = .head → x.leaves s = s ∨ x.Opens s
  entries : (x.leaves s).entries = s.entries ∨ ∃ row, (x.leaves s).entries = row :: s.entries

variable {b : Books} {precision : Precision}

theorem status_lt_of_lawful (hb : b.Lawful) (hgateways : x.gateways.Available) :
    (x.response (b.store precision)).status < 500 := by
  have hreads := Http.reads_resolve x.request
  cases h : x.request.resolve with
  | error response =>
      rw [h] at hreads
      rw [(of_answered h).1]
      exact hreads
  | ok operation =>
      have hfails : Service.Fails ServiceError.IsRefusal
          (operation.perform x.gateways x.draws ⟨b.store precision, []⟩) :=
        operation.fails_perform hgateways hb rfl rfl
      cases hperform : operation.perform x.gateways x.draws ⟨b.store precision, []⟩ with
      | ok answer u =>
          have hsuccess := Http.isSuccess_respond_ok operation answer
          simp only [Http.Response.isSuccess, Bool.and_eq_true, decide_eq_true_eq] at hsuccess
          rw [(of_performed_ok h hperform).1]
          omega
      | error error u =>
          rw [(of_performed_error h hperform).1]
          exact Http.status_respond_error operation (hfails.of_error hperform).1

theorem leaves_of_refused (hb : b.Lawful) (hrefused : ¬ (x.response (b.store precision)).isSuccess) :
    x.leaves (b.store precision) = b.store precision := by
  have hreads := Http.reads_resolve x.request
  cases h : x.request.resolve with
  | error response => exact (of_answered h).2
  | ok operation =>
      rw [h] at hreads
      cases hperform : operation.perform x.gateways x.draws ⟨b.store precision, []⟩ with
      | ok answer u =>
          refine absurd (Http.isSuccess_respond_ok operation answer) ?_
          rwa [Http.Response.isSuccess, ← (of_performed_ok h hperform).1]
      | error error u =>
          rw [(of_performed_error h hperform).2]
          exact Operation.store_of_perform_error hb rfl rfl hreads hperform

theorem leaves_of_looking (hmethod : x.request.method = .get ∨ x.request.method = .head) :
    x.leaves s = s ∨ x.Opens s := by
  have hreads := Http.reads_resolve_get hmethod
  cases h : x.request.resolve with
  | error response => exact .inl (of_answered h).2
  | ok operation =>
      rw [h] at hreads
      rw [leaves_of_resolve h]
      rcases hreads with hlooks | ⟨part, hroute, text, user, htext, huser, rfl⟩
      · exact .inl (hlooks x.gateways x.draws ⟨s, []⟩)
      · have hpath : x.request.path = "/api/users/".toList ++ part ++ "/wallet".toList := by
          rw [Http.Route.path_of_ofPath? hroute]
          simp [Http.Route.parts, List.intercalate]
        refine (leaves_wallet x user s).imp_right ?_
        rintro ⟨hnone, hleaves⟩
        refine ⟨part, text, user, hpath, htext, huser, hnone, ?_⟩
        rw [leaves_of_resolve h, hleaves]

end Exchange

namespace Store

/-- The store after a run of exchanges. -/
def afterExchanges (s : Store) : List Exchange → Store
  | [] => s
  | x :: xs => (x.leaves s).afterExchanges xs

/-- A run of exchanges leaves what some steps leave. -/
theorem exists_after (s : Store) (xs : List Exchange) : ∃ steps, s.afterExchanges xs = s.after steps := by
  induction xs generalizing s with
  | nil => exact ⟨[], rfl⟩
  | cons x xs ih =>
      obtain ⟨steps, hsteps⟩ := ih (x.leaves s)
      cases h : x.request.resolve with
      | error response =>
          refine ⟨steps, ?_⟩
          rw [afterExchanges, hsteps, (Exchange.of_answered h).2]
      | ok operation =>
          refine ⟨x.step operation :: steps, ?_⟩
          rw [afterExchanges, hsteps, after, Exchange.leaves_of_resolve h]

theorem afterExchanges_lawful (precision : Precision) (xs : List Exchange) :
    ∃ b : Books, (empty precision).afterExchanges xs = b.store precision ∧ b.Lawful := by
  obtain ⟨steps, hsteps⟩ := (empty precision).exists_after xs
  rw [hsteps]
  exact Books.run_lawful precision steps

end Store

/-- After any exchanges every further one is harmless, and no service can fail but with a refusal. The
postings count as a service of their own here, as an error of theirs is not always an error of the
operation; they can be made in every store that operations leave. -/
theorem Exchange.harmless (precision : Precision) (xs : List Exchange) (x : Exchange)
    (hgateways : x.gateways.Available) :
    x.Harmless ((Store.empty precision).afterExchanges xs) ∧
    (∀ (operation : Operation) error u, operation.perform x.gateways x.draws
      ⟨(Store.empty precision).afterExchanges xs, []⟩ = .error error u → error.IsRefusal) ∧
    ∀ steps draws user posting error u,
      Ledger.post draws user posting ⟨(Store.empty precision).after steps, []⟩ = .error error u →
        error.IsRefusal := by
  obtain ⟨b, hb, hlawful⟩ := Store.afterExchanges_lawful precision xs
  refine ⟨?_, fun operation error u h => ?_, fun steps draws user posting error u h => ?_⟩
  · rw [hb]
    refine ⟨status_lt_of_lawful hlawful hgateways, leaves_of_refused hlawful, leaves_of_looking, ?_⟩
    cases h : x.request.resolve with
    | error response => exact .inl (by rw [(of_answered h).2])
    | ok operation =>
        rw [leaves_of_resolve h]
        exact ((x.step operation).records precision hlawful).entries
  · rw [hb] at h
    have hfails : Service.Fails ServiceError.IsRefusal
        (operation.perform x.gateways x.draws ⟨b.store precision, []⟩) :=
      operation.fails_perform hgateways hlawful rfl rfl
    exact (hfails.of_error h).1
  · obtain ⟨c, hc, hsound⟩ := Books.run_lawful precision steps
    rw [hc] at h
    have hfails : Service.Fails ServiceError.IsRefusal
        (Ledger.post draws user posting ⟨c.store precision, []⟩) :=
      Ledger.fails_post hsound.toSound rfl rfl
    exact (hfails.of_error h).1

/-- A user without a wallet asks for money after another one looked at a wallet. -/
theorem Exchange.harmless_withdrawal :
    (Gateways.hosted Gateway.defaultBaseA Gateway.defaultBaseB).Available ∧
      (Exchange.mk (.hosted Gateway.defaultBaseA Gateway.defaultBaseB) (.ofDigit 2)
        ⟨.post, "/api/users/22222222-2222-2222-2222-222222222222/wallet/withdraw",
          some "application/json", "\x7b\"amount\":5\x7d"⟩).Harmless
        ((Store.empty .nanosecond).afterExchanges
          [⟨.hosted Gateway.defaultBaseA Gateway.defaultBaseB, .ofDigit 1,
            ⟨.get, "/api/users/11111111-1111-1111-1111-111111111111/wallet", none, ""⟩⟩]) :=
  ⟨Gateways.available_hosted _ _,
    (Exchange.harmless .nanosecond _ _ (Gateways.available_hosted _ _)).1⟩

end Purse
