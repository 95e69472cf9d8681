import Purse.Proofs.Run

/-!
# Refusals

A service that no fault hits fails only because of what it was asked for. Such an error is a refusal: a
broken rule of the ledger, a payment that does not exist, or a key that is taken. It is never trouble with
the store, such as a row that cannot be read, a row that should be there and is not, or a broken
constraint other than that of a key.

The proofs follow the text of the services. `Ends` says what the answer and the error of a result can be;
what the store holds in between is known from the services that answered, as everywhere.
-/
namespace Purse
open Service

namespace ServiceError

/-- Whether an error is about the request. -/
def IsRefusal : ServiceError → Prop
  | .invalidAmount _ | .insufficientBalance _ _ | .invalidPaymentStatus _ _ | .paymentNotFound _
  | .badRequest _ => True
  | .notFound _ | .gateway _ | .internal _ | .timedOut => False

theorem IsRefusal.status_lt {error : ServiceError} (h : error.IsRefusal) : error.status < 500 := by
  cases error <;> first | exact h.elim | simp [status]

theorem isRefusal_ofLedger (cause : LedgerError) : (ofLedger cause).IsRefusal := by
  cases cause <;> trivial

end ServiceError

/-- Gateways that are there for whoever is sent to them. -/
def Gateways.Available (gateways : Gateways) : Prop :=
  ∀ method gateway, gateways method = some gateway → ∀ payment reference cause,
    gateway.openCheckout payment reference = .error cause → ∃ method, cause = .unsupported method

theorem Gateways.available_hosted (baseA baseB : String) : (hosted baseA baseB).Available := by
  intro method gateway hgateway payment reference cause hcause
  cases method <;> simp only [hosted, Option.some.injEq, reduceCtorEq] at hgateway
  all_goals
    subst hgateway
    simp only [Gateway.a, Gateway.b, Gateway.hosted] at hcause
    split_ifs at hcause
    cases hcause
    exact ⟨_, rfl⟩

/-! ## How a result ends -/

namespace Service

variable {α β : Type} {w u : World} {Q : α → Prop} {R : ServiceError → Prop}

/-- No fault is left, the answer satisfies one condition, and the error another. -/
def Ends (Q : α → Prop) (R : ServiceError → Prop) : EStateM.Result ServiceError World α → Prop
  | .ok a u => Q a ∧ u.faults = []
  | .error error u => R error ∧ u.faults = []

/-- Every answer is allowed. -/
abbrev Fails (R : ServiceError → Prop) : EStateM.Result ServiceError World α → Prop :=
  Ends (fun _ => True) R

theorem Ends.of_ok {x : Service α} {a : α} (hx : Ends Q R (x w)) (h : x w = .ok a u) :
    Q a ∧ u.faults = [] := by
  rwa [h] at hx

theorem Ends.of_error {x : Service α} {error : ServiceError} (hx : Ends Q R (x w))
    (h : x w = .error error u) : R error ∧ u.faults = [] := by
  rwa [h] at hx

theorem ends_pure {a : α} (hw : w.faults = []) (ha : Q a) : Ends Q R ((pure a : Service α) w) :=
  ⟨ha, hw⟩

theorem ends_throw {error : ServiceError} (hw : w.faults = []) (he : R error) :
    Ends Q R ((throw error : Service α) w) :=
  ⟨he, hw⟩

theorem Ends.bind {x : Service α} {f : α → Service β} {Q' : β → Prop} (hx : Ends Q R (x w))
    (hf : ∀ a u, x w = .ok a u → Q a → u.faults = [] → Ends Q' R (f a u)) :
    Ends Q' R ((x >>= f) w) := by
  cases h : (x >>= f) w with
  | ok b u =>
      obtain ⟨a, v, hfirst, hrest⟩ := bind_eq_ok.1 h
      have ha := hx.of_ok hfirst
      exact (hf a v hfirst ha.1 ha.2).of_ok hrest
  | error e u =>
      rcases bind_eq_error.1 h with hfirst | ⟨a, v, hfirst, hrest⟩
      · exact hx.of_error hfirst
      · have ha := hx.of_ok hfirst
        exact (hf a v hfirst ha.1 ha.2).of_error hrest

theorem ends_throw_bind {error : ServiceError} {f : α → Service β} {Q' : β → Prop} (hw : w.faults = [])
    (he : R error) : Ends Q' R ((throw error >>= f) w) :=
  ⟨he, hw⟩

theorem Fails.map {x : Service α} {f : α → β} (hx : Fails R (x w)) : Fails R ((f <$> x) w) := by
  cases h : (f <$> x) w with
  | ok b u =>
      obtain ⟨a, h, -⟩ := map_eq_ok.1 h
      exact ⟨trivial, (hx.of_ok h).2⟩
  | error e u => exact hx.of_error (map_eq_error.1 h)

theorem ends_ledger {x : Except LedgerError α} (hw : w.faults = [])
    (hR : ∀ cause, x = .error cause → R (.ofLedger cause)) : Fails R ((liftM x : Service α) w) := by
  cases x with
  | ok a => exact ⟨trivial, hw⟩
  | error cause => exact ⟨hR cause rfl, hw⟩

theorem ends_attempt {call : StoreCall} {step : Store → Except StoreError (α × Store)}
    (hw : w.faults = []) (hR : ∀ cause, step w.store = .error cause → R (.ofStore cause)) :
    Fails R ((liftM (World.attempt call step) : Service α) w) := by
  obtain ⟨s, faults⟩ := w
  obtain rfl : faults = [] := hw
  cases h : (liftM (World.attempt call step) : Service α) ⟨s, []⟩ with
  | ok a u =>
      have hattempt := liftStore_eq_ok.1 h
      simp only [World.attempt, Fault.consult] at hattempt
      split at hattempt <;> cases hattempt
      exact ⟨trivial, rfl⟩
  | error e u =>
      obtain ⟨cause, hattempt, rfl⟩ := liftStore_eq_error.1 h
      simp only [World.attempt, Fault.consult] at hattempt
      split at hattempt
      · rename_i hstep
        cases hattempt
        exact ⟨hR cause hstep, rfl⟩
      · cases hattempt

/-- Looking for something that can be read is no trouble. -/
theorem ends_look {call : StoreCall} {query : Store → Except StoreError α} {a : α} (hw : w.faults = [])
    (h : query w.store = .ok a) : Fails R ((liftM (World.look call query) : Service α) w) := by
  refine ends_attempt hw fun cause hcause => ?_
  simp [h, Except.map] at hcause

theorem ends_write {call : StoreCall} {change : Store → Except StoreError Store} (hw : w.faults = [])
    (hR : ∀ cause, change w.store = .error cause → R (.ofStore cause)) :
    Fails R ((liftM (World.write call change) : Service Unit) w) := by
  refine ends_attempt hw fun cause hcause => ?_
  cases hchange : change w.store with
  | ok s => simp [hchange, Except.map] at hcause
  | error e =>
      simp only [hchange, Except.map, Except.error.injEq] at hcause
      exact hcause ▸ hR e hchange

/-- What was observed is an answer either way. -/
theorem Ends.observe {x : Service α} {R' : ServiceError → Prop} (hx : Ends Q R (x w)) :
    Ends (fun outcome => ∀ error, outcome = .error error → R error) R' (Service.observe x w) := by
  cases h : Service.observe x w with
  | error e u => exact absurd h observe_ne_error
  | ok outcome u =>
      rcases of_observe_ok h with ⟨a, rfl, hok⟩ | ⟨e, rfl, herror⟩
      · exact ⟨nofun, (hx.of_ok hok).2⟩
      · obtain ⟨he, hu⟩ := hx.of_error herror
        refine ⟨fun error herror => ?_, hu⟩
        cases herror
        exact he

/-- What a unit of work answers, whether or not it is kept. -/
def Ending.answer : Ending α → α
  | .keep a | .discard a => a

theorem Ends.unitOfWork {body : Service (Ending α)} (hw : w.faults = [])
    (h : Ends (fun ending => Q ending.answer) R (body w)) : Ends Q R (Service.unitOfWork body w) := by
  obtain ⟨s, faults⟩ := w
  obtain rfl : faults = [] := hw
  refine Ends.bind (Q := (· = s)) ⟨rfl, rfl⟩ fun base u hbegin _ _ => ?_
  obtain ⟨rfl, rfl⟩ : base = s ∧ u = ⟨s, []⟩ := by
    cases hbegin
    exact ⟨rfl, rfl⟩
  cases hbody : body ⟨base, []⟩ with
  | error e v =>
      obtain ⟨hR, hv⟩ := h.of_error hbody
      exact ⟨hR, hv⟩
  | ok ending v =>
      obtain ⟨t, faults⟩ := v
      obtain ⟨hQ, rfl⟩ : Q ending.answer ∧ faults = [] := h.of_ok hbody
      cases ending with
      | discard a => exact ⟨hQ, rfl⟩
      | keep a => exact ⟨hQ, rfl⟩

theorem Fails.unitOfWork {body : Service (Ending α)} (hw : w.faults = []) (h : Fails R (body w)) :
    Fails R (Service.unitOfWork body w) :=
  Ends.unitOfWork hw h

end Service

theorem ServiceError.isRefusal_duplicate (column : String) : (ofStore (.duplicate column)).IsRefusal :=
  trivial

variable {b : Books} {precision : Precision} {draws : Draws} {w u : World} {R : ServiceError → Prop}

/-! ## The ledger services -/

namespace Ledger

theorem fails_opening {call : StoreCall} {user : UserId} {id : WalletId} {now : Timestamp}
    (hb : b.Sound) (hw : w.store = b.store precision) (hf : w.faults = []) :
    Fails ServiceError.IsRefusal
      ((liftM (World.attempt call (·.openWallet user id now)) : Service Wallet) w) := by
  refine ends_attempt hf fun cause hcause => ?_
  rw [hw] at hcause
  rw [Books.of_openWallet_error hb hcause]
  exact ServiceError.isRefusal_duplicate _

theorem fails_post {user : UserId} {posting : Posting} (hb : b.Sound) (hw : w.store = b.store precision)
    (hf : w.faults = []) : Fails ServiceError.IsRefusal (post draws user posting w) := by
  refine (fails_opening hb hw hf).bind fun wallet w₁ hlock _ hf₁ => ?_
  obtain ⟨b₀, h₁, hopen⟩ := of_opening hb hw hlock
  have h₀ := hopen.sound hb
  refine (ends_ledger hf₁ fun cause _ => ServiceError.isRefusal_ofLedger cause).bind
    fun moved w₂ hmove _ hf₂ => ?_
  obtain ⟨hmoved, rfl⟩ := liftLedger_eq_ok.1 hmove
  obtain ⟨rfl, hlow, -⟩ := Wallet.of_move hmoved (h₀.balances wallet hopen.mem)
  refine (ends_write hf₁ fun cause hcause => ?_).bind fun _ w₃ hsave _ hf₃ => ?_
  · rw [h₁] at hcause
    exact absurd hcause (Books.saveWallet_ne_error hopen.mem hlow)
  have hsave := World.of_write_ok (liftStore_eq_ok.1 hsave)
  rw [h₁] at hsave
  obtain ⟨-, h₃⟩ := Books.of_saveWallet h₀ hopen.mem hsave
  refine (ends_write hf₃ fun cause hcause => ?_).bind fun _ w₄ _ _ hf₄ => ends_pure hf₄ trivial
  rw [h₃] at hcause
  have hstored : ∃ v ∈ (b₀.putWallet { wallet with
      balance := wallet.balance + posting.kind.direction.signed posting.amount.value
      updatedAt := precision.cut draws.balanceAt }).wallets, v.id = wallet.id :=
    ⟨_, Keyed.mem_put.2 (.inr ⟨rfl, _, hopen.mem, rfl⟩), rfl⟩
  rw [Books.of_appendEntry_error hstored hcause]
  exact ServiceError.isRefusal_duplicate _

/-- The four services that post on their own account have this form. -/
theorem fails_checked {user : UserId} {amount : Int} {posting : Amount → Posting} (hb : b.Sound)
    (hw : w.store = b.store precision) (hf : w.faults = []) :
    Fails ServiceError.IsRefusal
      ((do let a ← Amount.ofInt amount; postAlone draws user (posting a) : Service Entry) w) := by
  refine (ends_ledger hf fun cause _ => ServiceError.isRefusal_ofLedger cause).bind
    fun a u hamount _ hu => ?_
  obtain ⟨-, rfl⟩ := liftLedger_eq_ok.1 hamount
  exact Fails.unitOfWork hf ((fails_post hb hw hf).bind fun e v _ _ hv => ends_pure hv trivial)

theorem fails_balance {user : UserId} (hb : b.Sound) (hw : w.store = b.store precision)
    (hf : w.faults = []) : Fails R (balance user w) := by
  refine (ends_look hf (hw ▸ hb.findWallet user)).bind fun found u _ _ hu => ?_
  cases found with
  | none => exact ends_pure hu trivial
  | some wallet => exact ends_pure hu trivial

theorem fails_history {user : UserId} {page : Page} (hb : b.Sound) (hw : w.store = b.store precision)
    (hf : w.faults = []) : Fails R (history user page w) := by
  refine (ends_look hf (hw ▸ hb.findWallet user)).bind fun found u hfind _ hu => ?_
  have hstore := (World.of_look_ok (liftStore_eq_ok.1 hfind)).2.trans hw
  cases found with
  | none => exact ends_pure hu trivial
  | some wallet => exact ends_look hu (hstore ▸ Books.listEntries_store wallet.id page)

end Ledger

/-! ## The settlement services -/

namespace Settlement

/-- Looking for a payment is refused if there is none, and for no other reason. -/
theorem fails_lookup {id : PaymentId} (call : StoreCall) (hw : w.store = b.store precision)
    (hf : w.faults = []) (hR : (∃ p ∈ b.payments, p.id = id) ∨ R (.paymentNotFound id.text)) :
    Fails R ((do
      match ← World.look call (·.findPayment id) with
      | some payment => return payment
      | none => throw (.paymentNotFound id.text) : Service Payment) w) := by
  refine (ends_look hf (hw ▸ Books.findPayment_store id)).bind fun found u hfind _ hu => ?_
  cases found with
  | some p => exact ends_pure hu trivial
  | none =>
      refine ends_throw hu (hR.resolve_left ?_)
      rintro ⟨p, hp, hid⟩
      have hnone := (World.of_look_ok (liftStore_eq_ok.1 hfind)).1
      rw [hw, Books.findPayment_store, Except.ok.injEq] at hnone
      simpa [hid] using List.find?_eq_none.1 hnone p hp

theorem fails_locked {id : PaymentId} (hw : w.store = b.store precision) (hf : w.faults = [])
    (hR : (∃ p ∈ b.payments, p.id = id) ∨ R (.paymentNotFound id.text)) : Fails R (locked id w) :=
  fails_lookup .lockPayment hw hf hR

theorem fails_find {id : PaymentId} (hw : w.store = b.store precision) (hf : w.faults = [])
    (hR : (∃ p ∈ b.payments, p.id = id) ∨ R (.paymentNotFound id.text)) : Fails R (find id w) :=
  fails_lookup .getPayment hw hf hR

/-- Saving a stored payment is refused only if it brings a reference, because that is taken. -/
theorem fails_savePayment {p q : Payment} (hw : w.store = b.store precision) (hf : w.faults = [])
    (hp : p ∈ b.payments) (hid : q.id = p.id)
    (hR : q.externalId.isSome → R (.ofStore (.duplicate "payments.external_id"))) :
    Fails R ((liftM (World.savePayment q) : Service Unit) w) := by
  refine ends_write hf fun cause hcause => ?_
  rw [hw] at hcause
  obtain ⟨rfl, hsome⟩ := Books.of_savePayment_error hp hid hcause
  exact hR hsome

theorem externalId_eq_none {p : Payment} (hb : b.Lawful) (hp : p ∈ b.payments)
    (hwallet : p.method = .wallet) : p.externalId = none := by
  have hexternal := mt (hb.wellFormed p hp).external
  simpa [hwallet, PaymentMethod.isExternal] using hexternal

/-- A step of a stored payment and the saving of it, which ends a unit of work. -/
theorem fails_step {α : Type} {p : Payment} {step : Except LedgerError Payment}
    {ending : Payment → Ending α} (hw : w.store = b.store precision) (hf : w.faults = [])
    (hp : p ∈ b.payments) (hid : ∀ q, step = .ok q → q.id = p.id) :
    Fails ServiceError.IsRefusal ((do
      let q ← step
      World.savePayment q
      return ending q : Service (Ending α)) w) := by
  refine (ends_ledger hf fun cause _ => ServiceError.isRefusal_ofLedger cause).bind
    fun q v hstep _ hv => ?_
  obtain ⟨hok, rfl⟩ := liftLedger_eq_ok.1 hstep
  refine (fails_savePayment hw hf hp (hid q hok) fun _ => ?_).bind fun _ v _ _ hv => ends_pure hv trivial
  exact ServiceError.isRefusal_duplicate _

/-- The same with a posting in front of it. -/
theorem fails_post_step {p : Payment} {posting : Posting} {step : Except LedgerError Payment}
    (hb : b.Lawful) (hw : w.store = b.store precision) (hf : w.faults = []) (hp : p ∈ b.payments)
    (hid : ∀ q, step = .ok q → q.id = p.id) :
    Fails ServiceError.IsRefusal ((do
      let _ ← Ledger.post draws p.userId posting
      let q ← step
      World.savePayment q
      return .keep q : Service (Ending Payment)) w) := by
  refine (Ledger.fails_post hb.toSound hw hf).bind fun e v hpost _ hv => ?_
  obtain ⟨b', hb', hposted⟩ := Ledger.of_post hb.toSound hw hpost
  exact fails_step hb' hv (hposted.payments_eq ▸ hp) hid

/-- A payment without a reference can always be marked. -/
theorem fails_markFailed {p : Payment} {id : PaymentId} {reason : String} (hb : b.Lawful)
    (hw : w.store = b.store precision) (hf : w.faults = []) (hp : p ∈ b.payments) (hid : p.id = id)
    (hnone : p.externalId = none) : Fails R (markFailed draws id reason w) := by
  refine Fails.unitOfWork hf ((fails_locked hw hf (.inl ⟨p, hp, hid⟩)).bind fun q u hlock _ hu => ?_)
  obtain ⟨hq, hqid, hstore⟩ := of_locked hw hlock
  obtain rfl := hb.eq_of_id hq hp (hqid.trans hid.symm)
  split_ifs with hs
  · exact ends_pure hu trivial
  rw [Payment.fail_of_pending (not_not.1 hs)]
  refine (ends_ledger hu nofun).bind fun r v hfail _ hv => ?_
  obtain ⟨hfailed, rfl⟩ := liftLedger_eq_ok.1 hfail
  cases hfailed
  refine (fails_savePayment (hstore.trans hw) hu hp ?_ fun hsome => ?_).bind fun _ v _ _ hv => ?_
  · rfl
  · simp [hnone] at hsome
  · exact ends_pure hv trivial

/-- An attempt to charge a pending wallet payment is never an error of its own. Any other attempt can only
be refused, as can the posting. -/
theorem ends_tryCharge {id : PaymentId} (hb : b.Lawful) (hw : w.store = b.store precision)
    (hf : w.faults = [])
    (hR : (∃ p ∈ b.payments, p.id = id ∧ p.method = .wallet ∧ p.status = .pending) ∨
      ∀ error : ServiceError, error.IsRefusal → R error) :
    Ends (fun outcome => ∀ error, outcome = .error error → error.IsRefusal) R
      (tryCharge draws id w) := by
  have hlocked : Fails R (locked id w) :=
    fails_locked hw hf (hR.imp (fun ⟨p, hp, hid, _⟩ => ⟨p, hp, hid⟩) fun hR => hR _ trivial)
  refine Ends.unitOfWork hf (hlocked.bind fun p u hlock _ hu => ?_)
  obtain ⟨hp, hid, hstore⟩ := of_locked hw hlock
  have hother (hnot : ¬ (p.method = .wallet ∧ p.status = .pending)) {error : ServiceError}
      (he : error.IsRefusal) : R error := by
    refine hR.resolve_left ?_ error he
    rintro ⟨q, hq, hqid, hq'⟩
    obtain rfl := hb.eq_of_id hq hp (hqid.trans hid.symm)
    exact hnot hq'
  split_ifs with hmethod
  · exact ends_throw_bind hu (hother (fun h => hmethod h.1) (by trivial))
  cases hs : p.status with
  | completed => exact ends_pure hu nofun
  | failed => exact ends_throw hu (hother (by simp [hs]) trivial)
  | refunded => exact ends_throw hu (hother (by simp [hs]) trivial)
  | pending =>
      refine (Ends.observe (Ledger.fails_post hb.toSound (hstore.trans hw) hu)).bind
        fun outcome v hobserve houtcome hv => ?_
      cases outcome with
      | error error =>
          refine ends_pure hv fun e he => houtcome e ?_
          cases he
          rfl
      | ok e =>
          dsimp only
          rw [Payment.complete_of_pending hs]
          refine (ends_ledger hv nofun).bind fun q v' hcomplete _ hv' => ?_
          obtain ⟨hcompleted, rfl⟩ := liftLedger_eq_ok.1 hcomplete
          cases hcompleted
          obtain ⟨f, hf, hpost⟩ := (of_observe_ok hobserve).resolve_right (by simp)
          obtain ⟨b', hb', hposted⟩ := Ledger.of_post hb.toSound (hstore.trans hw) hpost
          have hwallet : p.method = .wallet := not_not.1 hmethod
          refine (fails_savePayment hb' hv (hposted.payments_eq ▸ hp) ?_ fun hsome => ?_).bind
            fun _ v' _ _ hv' => ends_pure hv' nofun
          · rfl
          · simp [externalId_eq_none hb hp hwallet] at hsome

theorem fails_payFromWallet {id : PaymentId} (hb : b.Lawful) (hw : w.store = b.store precision)
    (hf : w.faults = []) : Fails ServiceError.IsRefusal (payFromWallet draws id w) := by
  refine (ends_tryCharge hb hw hf (.inr fun _ he => he)).bind fun outcome u htry houtcome hu => ?_
  obtain ⟨p, hp, hid, hwallet, hcases⟩ := of_tryCharge hb hw htry
  cases outcome with
  | ok q => exact ends_pure hu trivial
  | error error =>
      have hstore : u.store = w.store := by
        rcases hcases with ⟨-, ⟨⟩, -⟩ | ⟨-, -, hstore⟩ | ⟨-, -, -, -, ⟨⟩, -⟩
        exact hstore
      refine (fails_markFailed hb (hstore.trans hw) hu hp hid (externalId_eq_none hb hp hwallet)).bind
        fun _ v _ _ hv => ?_
      exact ends_throw hv (houtcome error rfl)

/-- A pending wallet payment that could not be charged is stored as failed. -/
theorem failed_of_payFromWallet_error {p : Payment} {error : ServiceError} (hb : b.Lawful)
    (hw : w.store = b.store precision) (hf : w.faults = []) (hp : p ∈ b.payments)
    (hwallet : p.method = .wallet) (hpending : p.status = .pending)
    (h : payFromWallet draws p.id w = .error error u) :
    ∃ q b', q.status = .failed ∧ u.store = b'.store precision ∧ b.Amended p q b' := by
  have htry : Ends _ (fun _ => False) (tryCharge draws p.id w) :=
    ends_tryCharge hb hw hf (.inl ⟨p, hp, rfl, hwallet, hpending⟩)
  rcases bind_eq_error.1 h with hattempt | ⟨outcome, v, hattempt, h⟩
  · exact (htry.of_error hattempt).1.elim
  have hv := (htry.of_ok hattempt).2
  obtain ⟨r, hr, hid, -, hcases⟩ := of_tryCharge hb hw hattempt
  cases outcome with
  | ok q => cases h
  | error e =>
      have hstore : v.store = w.store := by
        rcases hcases with ⟨-, ⟨⟩, -⟩ | ⟨-, -, hstore⟩ | ⟨-, -, -, -, ⟨⟩, -⟩
        exact hstore
      have hmarks : Fails (fun _ => False) (markFailed draws p.id e.message v) :=
        fails_markFailed hb (hstore.trans hw) hv hp rfl (externalId_eq_none hb hp hwallet)
      rcases bind_eq_error.1 h with hmark | ⟨⟨⟩, v', hmark, h⟩
      · exact (hmarks.of_error hmark).1.elim
      obtain ⟨-, rfl⟩ := throw_eq_error.1 h
      have honly (q : Payment) (hq : q ∈ b.payments) (hqid : q.id = p.id) : q = p :=
        hb.eq_of_id hq hp hqid
      rcases of_markFailed hb (hstore.trans hw) (fun q hq hqid => honly q hq hqid ▸ hwallet) hmark with
        ⟨⟨q, hq, hqid, hs⟩, -⟩ | ⟨q, b', hqid, -, hu, hamended⟩
      · exact absurd hpending (honly q hq hqid ▸ hs)
      · obtain rfl := honly q hamended.mem_old hqid
        exact ⟨_, b', rfl, hu, hamended⟩

section Request
variable {user : UserId} {amount : Int} {method : PaymentMethod} {booking : Option BookingId}

/-- What follows the storing of a payment in a request is never an error: a wallet payment is charged, or
it is stored as failed. -/
theorem fails_inserted {a : Amount} (hb : b.Lawful) (hw : w.store = b.store precision)
    (hinsert : World.insertPayment (.requested draws.paymentId user a method booking draws.createdAt) w =
      .ok () u) (hu : u.faults = []) :
    Fails R ((do
      let payment := Payment.requested draws.paymentId user a method booking draws.createdAt
      if method ≠ .wallet then return payment
      match ← Service.observe (payFromWallet draws payment.id) with
      | .ok settled => return settled
      | .error error =>
        let stored ← find payment.id
        if stored.status = .failed then return stored else throw error : Service Payment) u) := by
  obtain ⟨hfresh, hstore⟩ := of_insert hw hinsert
  have hb' := hb.requested hfresh user a method booking (precision.cut draws.createdAt)
  dsimp only
  split_ifs with hmethod
  · exact ends_pure hu trivial
  refine (Ends.observe (fails_payFromWallet hb' hstore hu)).bind fun outcome v hobserve _ hv => ?_
  rcases of_observe_ok hobserve with ⟨settled, rfl, -⟩ | ⟨error, rfl, hpay⟩
  · exact ends_pure hv trivial
  obtain ⟨q, b', hfailed, hstore', hamended⟩ := failed_of_payFromWallet_error hb' hstore hu
    List.mem_cons_self (not_not.1 hmethod) rfl hpay
  have hqid := hamended.progress.sameTerms.id
  refine (fails_find hstore' hv (.inl ⟨q, hamended.mem_new, hqid⟩)).bind fun stored v' hfind _ hv' => ?_
  obtain ⟨hs, hsid⟩ := Books.of_findPayment (hstore' ▸ of_find_ok hfind)
  obtain rfl := (hamended.lawful hb').eq_of_id hs hamended.mem_new (hsid.trans hqid.symm)
  rw [if_pos hfailed]
  exact ends_pure hv' trivial

theorem fails_insertPayment {p : Payment} (hw : w.store = b.store precision) (hf : w.faults = []) :
    Fails ServiceError.IsRefusal ((liftM (World.insertPayment p) : Service Unit) w) := by
  refine ends_write hf fun cause hcause => ?_
  rw [hw] at hcause
  obtain ⟨column, rfl⟩ := Books.of_insertPayment_error hcause
  exact ServiceError.isRefusal_duplicate column

theorem fails_request (hb : b.Lawful) (hw : w.store = b.store precision) (hf : w.faults = []) :
    Fails ServiceError.IsRefusal (request draws user amount method booking w) := by
  refine (ends_ledger hf fun cause _ => ServiceError.isRefusal_ofLedger cause).bind
    fun a u hamount _ hu => ?_
  obtain ⟨-, rfl⟩ := liftLedger_eq_ok.1 hamount
  refine (fails_insertPayment hw hf).bind fun _ v hinsert _ hv => ?_
  exact fails_inserted hb hw (liftStore_eq_ok.1 hinsert) hv

/-- A request that is an error has stored nothing. -/
theorem store_of_request_error {error : ServiceError} (hb : b.Lawful) (hw : w.store = b.store precision)
    (hf : w.faults = []) (h : request draws user amount method booking w = .error error u) :
    u.store = w.store := by
  rcases bind_eq_error.1 h with hamount | ⟨a, w₁, hamount, h⟩
  · rw [(liftLedger_eq_error.1 hamount).2]
  obtain ⟨-, rfl⟩ := liftLedger_eq_ok.1 hamount
  rcases bind_eq_error.1 h with hinsert | ⟨⟨⟩, v, hinsert, h⟩
  · obtain ⟨cause, hinsert, -⟩ := liftStore_eq_error.1 hinsert
    exact World.store_of_write_error hinsert
  · have hv := ((fails_insertPayment hw hf).of_ok hinsert).2
    have hrest := fails_inserted (R := fun _ => False) hb hw (liftStore_eq_ok.1 hinsert) hv
    exact absurd (hrest.of_error h).1 not_false

end Request

theorem ends_gateway {gateway : Gateway} {payment : Payment} {reference : Reference} (hf : w.faults = [])
    (hgateway : ∀ cause, gateway.openCheckout payment reference = .error cause →
      ∃ method, cause = .unsupported method) :
    Fails ServiceError.IsRefusal
      ((liftM (gateway.openCheckout payment reference) : Service Redirect) w) := by
  cases h : gateway.openCheckout payment reference with
  | ok redirect => exact ⟨trivial, hf⟩
  | error cause =>
      obtain ⟨method, rfl⟩ := hgateway cause h
      exact ⟨trivial, hf⟩

theorem fails_checkout {gateways : Gateways} {id : PaymentId} (hgateways : gateways.Available)
    (hw : w.store = b.store precision) (hf : w.faults = []) :
    Fails ServiceError.IsRefusal (checkout gateways draws id w) := by
  refine Fails.unitOfWork hf ((fails_locked hw hf (.inr trivial)).bind fun p u hlock _ hu => ?_)
  obtain ⟨hp, -, hstore⟩ := of_locked hw hlock
  by_cases hexternal : p.method.isExternal = true
  swap
  · simp only [hexternal]
    exact ends_throw_bind hu trivial
  by_cases hpending : p.status = .pending
  swap
  · simp only [hexternal, hpending, Bool.not_true, Bool.false_eq_true, ne_eq, not_false_eq_true, if_true,
      if_false]
    exact ends_throw_bind hu trivial
  simp only [hexternal, hpending, Bool.not_true, Bool.false_eq_true, ne_eq, not_true, if_false]
  cases p.checkout? with
  | some found => exact ends_pure hu trivial
  | none =>
      dsimp only
      cases hgateway : gateways p.method with
      | none => exact ends_throw_bind hu trivial
      | some gateway =>
          refine (ends_gateway hu (hgateways _ _ hgateway _ _)).bind fun redirect v hredirect _ hv => ?_
          obtain ⟨-, rfl⟩ := liftGateway_eq_ok.1 hredirect
          refine fails_step (hstore.trans hw) hv hp fun q hattached => ?_
          obtain rfl := Payment.of_attachGateway hattached
          rfl

theorem fails_applyVerdict {verdict : Verdict} (hb : b.Lawful) (hw : w.store = b.store precision)
    (hf : w.faults = []) : Fails ServiceError.IsRefusal (applyVerdict draws verdict w) := by
  refine Fails.unitOfWork hf ((ends_look hf (hw ▸ Books.findPaymentOf_store verdict.externalId)).bind
    fun found u hfind _ hu => ?_)
  obtain ⟨hfind, hstore⟩ := World.of_look_ok (liftStore_eq_ok.1 hfind)
  cases found with
  | none => exact ends_throw_bind hu trivial
  | some p =>
      rw [hw] at hfind
      have hp := (Books.of_findPaymentOf hfind).1
      obtain ⟨hp, -⟩ := Books.of_findPaymentOf hfind
      refine Ends.bind (Q := (· = p)) (ends_pure hu rfl) fun p' v hpure hp' hv => ?_
      obtain ⟨rfl, rfl⟩ := pure_eq_ok.1 hpure
      dsimp only
      by_cases htarget : p.status = target verdict.success
      · rw [if_pos htarget]
        exact ends_pure hv trivial
      rw [if_neg htarget]
      by_cases hpending : p.status = .pending
      swap
      · rw [if_pos hpending]
        exact ends_throw_bind hv trivial
      rw [if_neg (not_not.2 hpending)]
      split_ifs with hsuccess
      · refine fails_post_step hb (hstore.trans hw) hv hp fun q hcompleted => ?_
        rw [Payment.of_complete hcompleted]
      · refine fails_step (hstore.trans hw) hv hp fun q hfailed => ?_
        rw [Payment.of_fail hfailed]

theorem fails_refund {id : PaymentId} (hb : b.Lawful) (hw : w.store = b.store precision)
    (hf : w.faults = []) : Fails ServiceError.IsRefusal (refund draws id w) := by
  refine Fails.unitOfWork hf ((fails_locked hw hf (.inr trivial)).bind fun p u hlock _ hu => ?_)
  obtain ⟨hp, -, hstore⟩ := of_locked hw hlock
  cases hs : p.status with
  | refunded => exact ends_pure hu trivial
  | pending => exact ends_throw hu (by trivial)
  | failed => exact ends_throw hu (by trivial)
  | completed =>
      refine fails_post_step hb (hstore.trans hw) hu hp fun q hrefunded => ?_
      rw [Payment.of_refund hrefunded]

end Settlement

/-! ## Every operation -/

namespace Operation

/-- An operation that no fault hits, and that is sent to no gateway that fails, fails only with a
refusal. -/
theorem fails_perform {gateways : Gateways} (operation : Operation) (hgateways : gateways.Available)
    (hb : b.Lawful) (hw : w.store = b.store precision) (hf : w.faults = []) :
    Fails ServiceError.IsRefusal (operation.perform gateways draws w) := by
  have hsound := hb.toSound
  cases operation with
  | wallet user => exact (Ledger.fails_opening hsound hw hf).map
  | balance user => exact (Ledger.fails_balance hsound hw hf).map
  | history user page => exact (Ledger.fails_history hsound hw hf).map
  | deposit user amount description => exact (Ledger.fails_checked hsound hw hf).map
  | withdraw user amount description => exact (Ledger.fails_checked hsound hw hf).map
  | chargeBooking user amount booking => exact (Ledger.fails_checked hsound hw hf).map
  | refundBooking user amount booking reason => exact (Ledger.fails_checked hsound hw hf).map
  | requestPayment user amount method booking => exact (Settlement.fails_request hb hw hf).map
  | payFromWallet id => exact (Settlement.fails_payFromWallet hb hw hf).map
  | checkout id => exact (Settlement.fails_checkout hgateways hw hf).map
  | applyVerdict verdict => exact (Settlement.fails_applyVerdict hb hw hf).map
  | refundPayment id => exact (Settlement.fails_refund hb hw hf).map
  | payment id => exact (Settlement.fails_find hw hf (.inr trivial)).map
  | payments user page => exact (ends_look hf (hw ▸ Books.listPayments_store user page)).map

/-- Of the operations that no fault hits only the charging of a stored payment can fail and leave
something: the reason. -/
theorem store_of_perform_error {gateways : Gateways} {operation : Operation} {error : ServiceError}
    (hb : b.Lawful) (hw : w.store = b.store precision) (hf : w.faults = [])
    (hoperation : ∀ id, operation ≠ .payFromWallet id)
    (h : operation.perform gateways draws w = .error error u) : u.store = w.store := by
  rcases of_perform_error hb hw h with hu | ⟨user, amount, booking, a, p, rfl, -⟩ | ⟨p, b', rfl, -⟩
  · exact hu
  · exact Settlement.store_of_request_error hb hw hf (map_eq_error.1 h)
  · exact absurd rfl (hoperation p.id)

end Operation
end Purse
