import Purse.Proofs.Exchange
import Purse.Proofs.Settling

/-!
# Verdicts over HTTP

A gateway reports its verdict on a payment to a path of its own. Only the name in the path is looked at
first: a name that is not one of the two gateways is answered without a look at the store, and which of the
two it is makes no difference. Then the payment that carries the reference decides, with the verdict and
the payer's balance. A verdict that came before is acknowledged again, and so is one on a reference that
nobody has; one against a verdict that came before is a conflict. Only a pending payment is moved, and if
the money does not fit into the payer's wallet, not even that: such a verdict can be sent again when the
payer has made room.
-/
namespace Purse
open Service

namespace Settlement

/-! ## Verdicts on payments -/

variable {b : Books} {p : Payment} {draws : Draws} {precision : Precision} {verdict : Verdict}

theorem topUp_refusal? (p : Payment) (balance : Int) :
    (topUp p).refusal? balance =
      if 2 ^ 63 - 1 < balance + p.amount.value then some .balanceOverflow else none := rfl

theorem applyVerdict_unknown {s : Store} (h : s.findPaymentOf verdict.externalId = .ok none) :
    applyVerdict draws verdict ⟨s, []⟩ =
      .error (.paymentNotFound ("external reference " ++ verdict.externalId)) ⟨s, []⟩ :=
  unitOfWork_error (t := s) (bind_eq_error.2 (.inr ⟨none, _, look_of_ok h, rfl⟩))

section Pending
variable (hb : b.Lawful) (hp : p ∈ b.payments) (he : p.externalId = some verdict.externalId)
  (hs : p.status = .pending)
include hb hp he hs

theorem applyVerdict_declined (hfailure : verdict.success = false) :
    applyVerdict draws verdict ⟨b.store precision, []⟩ =
      .ok { p with
        status := .failed
        errorMessage := some "payment declined by gateway"
        updatedAt := draws.movedAt }
        ⟨(b.putPayment { p with
          status := .failed
          errorMessage := some "payment declined by gateway"
          updatedAt := precision.cut draws.movedAt }).store precision, []⟩ := by
  refine unitOfWork_keep (bind_eq_ok.2 ⟨some p, _, look_of_ok (hb.findPaymentOf hp he), ?_⟩)
  simp only [pure_bind, hs, hfailure, target, reduceCtorEq, ne_eq, not_true, if_false, Bool.false_eq_true]
  exact fail_save_granted hb.toSound hp hs "payment declined by gateway" id precision

/-- The wallet may have been opened by then, but the unit of work is given up with it. -/
theorem applyVerdict_overflowing (hfresh : b.CanPost draws) (hsuccess : verdict.success)
    (hroom : 2 ^ 63 - 1 < (b.store precision).userBalance p.userId + p.amount.value) :
    applyVerdict draws verdict ⟨b.store precision, []⟩ =
      .error (.badRequest "Balance overflow") ⟨b.store precision, []⟩ := by
  have hposting := topUp_refusal? p ((b.store precision).userBalance p.userId)
  rw [if_pos hroom] at hposting
  obtain ⟨t, hpost⟩ := Ledger.post_refused hb.toSound hfresh hposting
  refine unitOfWork_error (t := t)
    (bind_eq_error.2 (.inr ⟨some p, _, look_of_ok (hb.findPaymentOf hp he), ?_⟩))
  simp only [pure_bind, hs, hsuccess, target, reduceCtorEq, ne_eq, not_true, if_true, if_false]
  exact bind_eq_error.2 (.inl hpost)

theorem applyVerdict_paid (hfresh : b.CanPost draws) (hsuccess : verdict.success)
    (hroom : (b.store precision).userBalance p.userId + p.amount.value ≤ 2 ^ 63 - 1) :
    ∃ e t, applyVerdict draws verdict ⟨b.store precision, []⟩ =
        .ok { p with status := .completed, updatedAt := draws.movedAt } ⟨t, []⟩ ∧
      (b.store precision).Replaces t p
        { p with status := .completed, updatedAt := precision.cut draws.movedAt } ∧
      (b.store precision).Enters t p.userId e ∧
      e.AccountsFor p .deposit ("Wallet top-up via " ++ p.method.name) := by
  have hposting := topUp_refusal? p ((b.store precision).userBalance p.userId)
  rw [if_neg (Int.not_lt.2 hroom)] at hposting
  have hsettles := Payment.Settles.toppedUp (precision.cut draws.movedAt) hs (by simp [he])
  obtain ⟨e, b', hpost, hsave, hentry, hposted⟩ := post_save_granted hb hfresh hp
    (q := { p with status := .completed, updatedAt := draws.movedAt }) hsettles hposting
  obtain ⟨hreplaces, henters⟩ := hposted.settles hb hp hsettles precision
  refine ⟨_, _, unitOfWork_keep
    (bind_eq_ok.2 ⟨some p, _, look_of_ok (hb.findPaymentOf hp he), ?_⟩), hreplaces, henters,
    hsettles.accountsFor hentry⟩
  simp only [pure_bind, hs, hsuccess, target, reduceCtorEq, ne_eq, not_true, if_true, if_false]
  refine bind_eq_ok.2 ⟨e, _, hpost, ?_⟩
  refine bind_eq_ok.2 ⟨_, _, liftLedger_eq_ok.2 ⟨Payment.complete_of_pending hs, rfl⟩, ?_⟩
  exact bind_eq_ok.2 ⟨(), _, hsave, rfl⟩

end Pending
end Settlement

namespace Http

/-! ## The path of a verdict -/

/-- A well-formed verdict that is sent to the path of a provider. -/
structure Request.Brings (r : Request) (provider : String) (verdict : Verdict) : Prop where
  method : r.method = .post
  path : ∃ part, r.path = "/api/webhooks/".toList ++ part ∧ '/' ∉ part ∧
    percentDecode? part = some provider
  body : r.readBody Verdict = .ok verdict

/-- Whether a text is the name of a gateway. -/
def IsGateway (provider : String) : Prop := provider = "gateway_a" ∨ provider = "gateway_b"

variable {r : Request} {provider : String} {verdict : Verdict} {part : List Char}

theorem Route.ofPath?_webhook (hslash : '/' ∉ part) (hne : part ≠ []) :
    ofPath? ("/api/webhooks/".toList ++ part) = some (.webhook part) := by
  have hpath : "/api/webhooks/".toList ++ part =
      ['/'].intercalate [[], "api".toList, "webhooks".toList, part] := by
    simp [List.intercalate]
  have hparts : ∀ name ∈ [[], "api".toList, "webhooks".toList, part], '/' ∉ name := by
    simp [hslash]
  rw [ofPath?, hpath, splitAt_eq_splitOn, List.splitOn_intercalate '/' hparts (List.cons_ne_nil _ _)]
  simp [ofApi?, hne]

theorem Route.ofPath?_webhook_nil : ofPath? "/api/webhooks/".toList = none := by decide

theorem readProvider_of_gateway (h : IsGateway provider) : readProvider provider = .ok () := by
  rcases h with rfl | rfl <;> rfl

theorem readProvider_of_other (h : ¬ IsGateway provider) :
    readProvider provider = .error (refusal (.notFound ("Unknown gateway " ++ provider))) := by
  rw [IsGateway, not_or] at h
  unfold readProvider PaymentMethod.ofName?
  rw [if_neg h.1, if_neg h.2]
  -- What is left is the name of the wallet, which is a method but no gateway.
  split_ifs <;> simp_all [PaymentMethod.isExternal]

/-- An empty part of the path names no provider. -/
theorem Request.Brings.resolve_cases (h : r.Brings provider verdict) :
    provider = "" ∧ r.resolve = .error ⟨404, none⟩ ∨
      r.resolve = (do readProvider provider; return .applyVerdict verdict) := by
  obtain ⟨part, hpath, hslash, hpart⟩ := h.path
  rw [Request.resolve, hpath]
  by_cases hnil : part = []
  · cases hnil
    cases hpart
    exact .inl ⟨rfl, by rw [List.append_nil, Route.ofPath?_webhook_nil]⟩
  · right
    rw [Route.ofPath?_webhook hslash hnil]
    simp only [Route.accepts, Route.method, h.method, Route.resolve, readPart, hpart, h.body]
    rfl

/-- A verdict that is sent to one of the gateways stands for its application. -/
theorem Request.Brings.resolve_gateway (h : r.Brings provider verdict) (hprovider : IsGateway provider) :
    r.resolve = .ok (.applyVerdict verdict) := by
  rcases h.resolve_cases with ⟨rfl, -⟩ | hresolve
  · simp [IsGateway] at hprovider
  · rw [hresolve, readProvider_of_gateway hprovider]
    rfl

/-- Anywhere else it is not found. -/
theorem Request.Brings.resolve_other (h : r.Brings provider verdict) (hprovider : ¬ IsGateway provider) :
    ∃ response, r.resolve = .error response ∧ response.status = 404 := by
  rcases h.resolve_cases with ⟨-, hresolve⟩ | hresolve
  · exact ⟨_, hresolve, rfl⟩
  · rw [hresolve, readProvider_of_other hprovider]
    exact ⟨_, rfl, rfl⟩

/-- A request to post something is served in full. -/
theorem serve_post (h : r.method = .post) (gateways : Gateways) (draws : Draws) (w : World) :
    serve gateways draws r w = serveFully gateways draws r w := by
  simp [serve, h]

end Http

namespace Exchange

/-! ## The response to a verdict -/

variable {x : Exchange} {s t : Store} {operation : Operation} {provider : String} {verdict : Verdict}

/-- The exchange is answered by a response with this status, and leaves the second store. -/
structure Ends (x : Exchange) (s : Store) (response : Http.Response) (status : Nat) (t : Store) :
    Prop where
  served : x.served s = (response, ⟨t, []⟩)
  status : response.status = status

section Ending
variable (h : x.request.Brings provider verdict) (hprovider : Http.IsGateway provider)
include h hprovider

theorem served_of_error {error : ServiceError}
    (hperform : (Operation.applyVerdict verdict).perform x.gateways x.draws ⟨s, []⟩ = .error error ⟨t, []⟩) :
    x.served s = (Http.respond (.applyVerdict verdict) (.error error), ⟨t, []⟩) := by
  rw [served, Http.serve_post h.method, Http.serveFully, h.resolve_gateway hprovider]
  simp only [hperform]

theorem ends_of_ok {answer : Answer}
    (hperform : (Operation.applyVerdict verdict).perform x.gateways x.draws ⟨s, []⟩ = .ok answer ⟨t, []⟩) :
    x.Ends s Http.acknowledged 200 t where
  served := by
    rw [served, Http.serve_post h.method, Http.serveFully, h.resolve_gateway hprovider]
    simp only [hperform, Http.respond]
  status := rfl

theorem ends_of_unknown {reference : String}
    (hperform : (Operation.applyVerdict verdict).perform x.gateways x.draws ⟨s, []⟩ =
      .error (.paymentNotFound reference) ⟨t, []⟩) :
    x.Ends s Http.acknowledged 200 t where
  served := served_of_error h hprovider hperform
  status := rfl

/-- Only a reference that no payment carries is acknowledged in spite of the error. -/
theorem ends_of_error {error : ServiceError}
    (hperform : (Operation.applyVerdict verdict).perform x.gateways x.draws ⟨s, []⟩ = .error error ⟨t, []⟩)
    (hunknown : ∀ reference, error ≠ .paymentNotFound reference) :
    x.Ends s (Http.refusal error) error.status t where
  served := by
    rw [served_of_error h hprovider hperform]
    unfold Http.respond
    split <;> simp_all
  status := by
    unfold Http.refusal
    split <;> rfl

end Ending

/-- What a verdict comes to with the payment that carries its reference. -/
structure Decides (x : Exchange) (s : Store) (success : Bool) (p : Payment) : Prop where
  repeated : p.status = Settlement.target success → x.Ends s Http.acknowledged 200 s
  conflicting : p.status ≠ Settlement.target success → p.status ≠ .pending →
    x.Ends s (Http.refusal (.invalidPaymentStatus p.status
      ("cannot move payment to " ++ (Settlement.target success).name))) 409 s
  declined : p.status = .pending → success = false → ∃ t, x.Ends s Http.acknowledged 200 t ∧
    s.Replaces t p { p with
      status := .failed
      errorMessage := some "payment declined by gateway"
      updatedAt := s.precision.cut x.draws.movedAt } ∧
    s.KeepsLedger t
  paid : p.status = .pending → success → s.userBalance p.userId + p.amount.value ≤ 2 ^ 63 - 1 →
    ∃ e t, x.Ends s Http.acknowledged 200 t ∧
      s.Replaces t p
        { p with status := .completed, updatedAt := s.precision.cut x.draws.movedAt } ∧
      s.Enters t p.userId e ∧ e.AccountsFor p .deposit ("Wallet top-up via " ++ p.method.name) ∧
      t.userBalance p.userId = s.userBalance p.userId + p.amount.value
  overflowing : p.status = .pending → success →
    2 ^ 63 - 1 < s.userBalance p.userId + p.amount.value →
      x.Ends s (Http.refusal (.badRequest "Balance overflow")) 400 s

theorem decides {b : Books} {p : Payment} {precision : Precision} (hb : b.Lawful)
    (hfresh : b.CanPost x.draws) (hp : p ∈ b.payments) (he : p.externalId = some verdict.externalId)
    (h : x.request.Brings provider verdict) (hprovider : Http.IsGateway provider) :
    x.Decides (b.store precision) verdict.success p := by
  constructor
  case repeated =>
      intro hs
      exact ends_of_ok h hprovider
        (map_eq_ok.2 ⟨p, Settlement.applyVerdict_applied hb hp he hs, rfl⟩)
  case conflicting =>
      intro hs hpending
      exact ends_of_error h hprovider
        (map_eq_error.2 (Settlement.applyVerdict_refused hb hp he hs hpending)) (by simp)
  case declined =>
      intro hs hfailure
      have hamends := Payment.Amends.failed "payment declined by gateway"
        (precision.cut x.draws.movedAt) hs fun _ => by simp [he]
      have hc := (Books.Amended.intro hp hamends (hb.references p hp)).lawful hb
      refine ⟨_, ends_of_ok h hprovider
        (map_eq_ok.2 ⟨_, Settlement.applyVerdict_declined hb hp he hs hfailure, rfl⟩), ?_, ⟨rfl, rfl, rfl⟩⟩
      exact hb.toSound.replaces hp hamends.sameTerms.id hc.toSound rfl precision
  case paid =>
      intro hs hsuccess hroom
      obtain ⟨e, t, hpaid, hreplaces, henters, haccounts⟩ :=
        Settlement.applyVerdict_paid hb hp he hs hfresh hsuccess hroom
      exact ⟨e, t, ends_of_ok h hprovider (map_eq_ok.2 ⟨_, hpaid, rfl⟩), hreplaces, henters, haccounts,
        henters.balance_eq haccounts⟩
  case overflowing =>
      intro hs hsuccess hroom
      exact ends_of_error h hprovider
        (map_eq_error.2 (Settlement.applyVerdict_overflowing hb hp he hs hfresh hsuccess hroom)) (by simp)

end Exchange

/-! ## Making room for a verdict that was refused -/

/-- Whatever the balance covers can be withdrawn. -/
theorem Operation.withdraw_granted {b : Books} {draws : Draws} {user : UserId} {amount : Int}
    {precision : Precision} (hb : b.Sound) (hfresh : b.CanPost draws) (hpos : 0 < amount)
    (hcovered : amount ≤ (b.store precision).userBalance user) (gateways : Gateways)
    (description : String) :
    ∃ e b', (Operation.withdraw user amount description).perform gateways draws
        ⟨b.store precision, []⟩ = .ok (.entry e) ⟨b'.store precision, []⟩ ∧
      ∃ posting, posting.paymentId = none ∧ b.Posted user posting (e.keptAt precision) b' ∧
        (e.keptAt precision).signedAmount = -amount := by
  have hhigh := (hb.userBalance_bounds precision user).2
  have hmax : maxSum = 9223372036854775807 := rfl
  obtain ⟨a, ha, rfl⟩ := Amount.exists_of_pos (Numeral.isWord_iff.2 ⟨by omega, by omega⟩) hpos
  have hposting : (Posting.withdraw a description).refusal? ((b.store precision).userBalance user) =
      none := if_neg (Int.not_lt.2 hcovered)
  have hpost := Ledger.postAlone_eq hb hfresh precision user (.withdraw a description)
  rw [hposting] at hpost
  obtain ⟨e, b', hpost, he, hposted⟩ := hpost
  refine ⟨e, b', ?_, _, rfl, hposted, ?_⟩
  · rw [Operation.perform_of_mutation (m := ⟨user, a.value, .withdraw, description, none⟩) rfl,
      checked_accepted ha]
    exact map_eq_ok.2 ⟨e, hpost, rfl⟩
  · rw [he]
    rfl

/-- Though the money of a pending payment does not fit into the payer's wallet, the payment can still be
settled: after the payer has withdrawn what is too much, whoever brings the verdict again completes it. -/
def Store.CanStillSettle (s : Store) (p : Payment) (verdict : Verdict) : Prop :=
  ∀ gateways draws description, s.CanPost draws → ∃ answer t,
    (Operation.withdraw p.userId (s.userBalance p.userId + p.amount.value - (2 ^ 63 - 1))
      description).perform gateways draws ⟨s, []⟩ = .ok answer ⟨t, []⟩ ∧
    ∀ (y : Exchange) provider, t.CanPost y.draws → y.request.Brings provider verdict →
      Http.IsGateway provider → ∃ u, y.Ends t Http.acknowledged 200 u ∧ u.findPayment p.id =
        .ok (some { p with status := .completed, updatedAt := t.precision.cut y.draws.movedAt })

theorem Books.canStillSettle {b : Books} {p : Payment} {precision : Precision} {verdict : Verdict}
    (hb : b.Lawful) (hp : p ∈ b.payments) (he : p.externalId = some verdict.externalId)
    (hs : p.status = .pending) (hsuccess : verdict.success)
    (hroom : 2 ^ 63 - 1 < (b.store precision).userBalance p.userId + p.amount.value) :
    (b.store precision).CanStillSettle p verdict := by
  intro gateways draws description hfresh
  obtain ⟨n, hn⟩ : ∃ n, n = (b.store precision).userBalance p.userId + p.amount.value - (2 ^ 63 - 1) :=
    ⟨_, rfl⟩
  have hhigh := (hb.userBalance_bounds precision p.userId).2
  have hmost := p.amount.le_max
  have hmax : maxSum = 2 ^ 63 - 1 := rfl
  have hcovered : n ≤ (b.store precision).userBalance p.userId := by omega
  rw [← hn]
  obtain ⟨e, b', hwithdraw, posting, hnone, hposted, hmoved⟩ :=
    Operation.withdraw_granted hb.toSound (Books.canPost_of_store hfresh) (by omega) hcovered gateways
      description
  have hb' := (Books.Effect.posted hnone hposted).lawful hb
  have hp' : p ∈ b'.payments := hposted.payments_eq ▸ hp
  have henters := hposted.enters hb.toSound hb'.toSound rfl rfl precision
  -- The withdrawal leaves exactly the room that the payment takes.
  have hroom' : (b'.store precision).userBalance p.userId + p.amount.value ≤ 2 ^ 63 - 1 := by
    rw [henters.balance, hmoved]
    omega
  refine ⟨_, _, hwithdraw, fun y provider hfresh' hy hprovider => ?_⟩
  obtain ⟨-, u, hends, hreplaces, -⟩ := (Exchange.decides hb' (Books.canPost_of_store hfresh') hp' he hy
    hprovider).paid hs hsuccess hroom'
  exact ⟨u, hends, hreplaces.found⟩

/-- A reference is carried by at most one payment, which is the one that is found. -/
theorem Books.Sound.findPaymentOf_unique {b : Books} {precision : Precision} {row : PaymentRow}
    {externalId : String} (hb : b.Sound) (hrow : row ∈ (b.store precision).payments)
    (he : row.externalId = some externalId) :
    (b.payments.find? (·.externalId = some externalId)).map .ofPayment = some row := by
  obtain ⟨q, hq, rfl⟩ := List.mem_map.1 hrow
  have hfound : (b.store precision).findPaymentOf externalId = .ok (some q) := hb.findPaymentOf hq he
  rw [Books.findPaymentOf_store, Except.ok.injEq] at hfound
  rw [hfound]
  rfl

/-- After any run a well-formed verdict is not found, whatever the store holds, unless it is sent to one of
the two gateways, and to which of them makes no difference. There the payment that carries the reference
decides what becomes of it; a verdict on a reference that no payment carries is acknowledged and changes
nothing. -/
theorem Exchange.applies_verdicts_exactly {precision : Precision} {steps : List Step} {s : Store}
    (hs : s = (Store.empty precision).after steps) {x : Exchange} (hfresh : s.CanPost x.draws)
    {provider : String} {verdict : Verdict} (h : x.request.Brings provider verdict) :
    (¬ Http.IsGateway provider → ∃ response : Http.Response, response.status = 404 ∧
      ∀ gateways draws w, Http.serve gateways draws x.request w = (response, w)) ∧
    (Http.IsGateway provider →
      (∀ (r : Http.Request) other, r.Brings other verdict → Http.IsGateway other → ∀ w,
        Http.serve x.gateways x.draws r w = Http.serve x.gateways x.draws x.request w) ∧
      ∃ found, s.findPaymentOf verdict.externalId = .ok found ∧
        (∀ row ∈ s.payments, row.externalId = some verdict.externalId →
          found.map .ofPayment = some row) ∧
        match found with
        | none => x.Ends s Http.acknowledged 200 s
        | some p => x.Decides s verdict.success p ∧
          (p.status = .pending → verdict.success → 2 ^ 63 - 1 < s.userBalance p.userId + p.amount.value →
            s.CanStillSettle p verdict)) := by
  obtain ⟨b, hb, hlawful⟩ := Books.run_lawful precision steps
  obtain rfl := hs.trans hb
  constructor
  · intro hother
    obtain ⟨response, hresolve, hstatus⟩ := h.resolve_other hother
    refine ⟨response, hstatus, fun gateways draws w => ?_⟩
    rw [Http.serve_post h.method, Http.serveFully, hresolve]
  intro hprovider
  constructor
  · intro r other hr hother w
    rw [Http.serve_post hr.method, Http.serve_post h.method, Http.serveFully, Http.serveFully,
      hr.resolve_gateway hother, h.resolve_gateway hprovider]
  refine ⟨_, Books.findPaymentOf_store verdict.externalId, ?_, ?_⟩
  · exact fun row hrow he => hlawful.findPaymentOf_unique hrow he
  · cases hfind : b.payments.find? (·.externalId = some verdict.externalId) with
    | none =>
        have hnone : (b.store precision).findPaymentOf verdict.externalId = .ok none := by
          rw [Books.findPaymentOf_store, hfind]
        exact ends_of_unknown h hprovider (map_eq_error.2 (Settlement.applyVerdict_unknown hnone))
    | some p =>
        have hp := List.mem_of_find?_eq_some hfind
        have he : p.externalId = some verdict.externalId := by simpa using List.find?_some hfind
        exact ⟨decides hlawful (Books.canPost_of_store hfresh) hp he h hprovider,
          Books.canStillSettle hlawful hp he⟩

/-- A store with a top-up that awaits the verdict of its gateway. -/
def Store.toppingUp : Store := (empty .microsecond).after Step.toppingUp

/-- The verdict that it was paid, which comes on the path of the other gateway. -/
def Exchange.paying : Exchange :=
  ⟨fun _ => none, .ofDigit 3, ⟨.post, "/api/webhooks/gateway%5Fb", some "application/json",
    "\x7b\"external_id\":\"ga_000000000000000000000002\",\"success\":true\x7d"⟩⟩

theorem Exchange.brings_paying :
    paying.request.Brings "gateway_b" ⟨"ga_000000000000000000000002", true⟩ :=
  ⟨rfl, ⟨"gateway%5Fb".toList, rfl, by decide, rfl⟩, rfl⟩

theorem Exchange.applies_verdicts_exactly_to_topUp :
    ∃ p, Store.toppingUp.findPayment ⟨.ofDigit 1⟩ = .ok (some p) ∧
      ∃ e t, paying.Ends Store.toppingUp Http.acknowledged 200 t ∧ Store.toppingUp.Enters t p.userId e ∧
        e.AccountsFor p .deposit "Wallet top-up via gateway_a" ∧ t.userBalance p.userId = 500 := by
  have hfresh : Store.toppingUp.CanPost paying.draws := ⟨by decide, by decide⟩
  obtain ⟨-, found, hfound, -, hends⟩ :=
    (applies_verdicts_exactly rfl hfresh brings_paying).2 (.inr rfl)
  cases hfound
  obtain ⟨e, t, hends, -, henters, haccounts, hbalance⟩ := hends.1.paid rfl rfl (by decide)
  exact ⟨_, rfl, e, t, hends, henters, haccounts, hbalance⟩

end Purse
