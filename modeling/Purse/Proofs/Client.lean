import Purse.Proofs.Json.Parser
import Purse.Proofs.Outcome
import Purse.Proofs.Request
import Purse.Proofs.Run

/-!
# The client speaks for the services

A call that is made through client and server has the effect of the service that it stands for, and the
client answers what the service does: its value, or its refusal with the status code, the kind and the
message. A balance comes without the report around it, and a verdict is acknowledged whether or not there
is a payment for it.
-/
namespace Purse

namespace Store

/-- Whether every stored balance is an integer of 64 bits, which is all that a column of sums can hold. -/
def HasWords (s : Store) : Prop := ∀ row ∈ s.wallets, Numeral.isWord row.balance

variable {s t : Store} {user : UserId} {found : Wallet}

theorem HasWords.of_read (hs : s.HasWords) {row : WalletRow} (hrow : s.walletOf? user = some row)
    (h : row.read = .ok found) : Numeral.isWord found.balance := by
  have hword := hs row (List.mem_of_find?_eq_some hrow)
  simp only [WalletRow.read, Wallet.ofParts] at h
  split_ifs at h <;> cases h
  exact hword

theorem HasWords.of_findWallet (hs : s.HasWords) (h : s.findWallet user = .ok (some found)) :
    Numeral.isWord found.balance := by
  unfold findWallet at h
  cases hrow : s.walletOf? user with
  | none => simp [hrow, readFound] at h
  | some row =>
      rw [hrow] at h
      cases hread : row.read with
      | error cause => simp [readFound, hread, Except.map] at h
      | ok stored =>
          simp only [readFound, hread, Except.map, Except.ok.injEq, Option.some.injEq] at h
          exact hs.of_read hrow (h ▸ hread)

theorem HasWords.of_openWallet (hs : s.HasWords) {id : WalletId} {now : Timestamp}
    (h : s.openWallet user id now = .ok (found, t)) : Numeral.isWord found.balance := by
  rcases Store.of_openWallet h with ⟨row, hrow, hread, -⟩ | ⟨-, -, rfl, -⟩
  · exact hs.of_read hrow hread
  · rfl

end Store

namespace Call

/-- The services, asked directly for what the call asks for. -/
def direct (gateways : Gateways) (draws : Draws) (c : Call) : Service Answer :=
  match c.operation? with
  | some operation => operation.perform gateways draws
  | none => throw (.notFound "Unknown gateway wallet")

/-- The reply to a call that a service grants. -/
def granted : Call → Answer → Reply
  | .sendVerdict .., _ => .acknowledgement ⟨true⟩
  | _, answer => .answer answer

/-- The reply to a call that a service refuses. -/
def refused : Call → ServiceError → Except ClientError Reply
  | .sendVerdict .., .paymentNotFound _ => .ok (.acknowledgement ⟨true⟩)
  | _, error => .error (.refused error.status (some error.kind) error.message)

/-- The answers that a call can get. -/
def Expects : Call → Answer → Prop
  | .wallet _, .wallet stored => Numeral.isWord stored.balance
  | .balance _, .balance sum => Numeral.isWord sum
  | .deposit .., .entry _ | .withdraw .., .entry _ => True
  | .history .., .entries _ | .payments .., .payments _ => True
  | .requestPayment .., .payment _ | .payment _, .payment _ | .refund _, .payment _ => True
  | .checkout _, .checkout _ | .sendVerdict .., .payment _ => True
  | _, _ => False

variable {c : Call} {operation : Operation} {answer : Answer} {error : ServiceError}

/-! ## Answers -/

theorem expects_of_perform {gateways : Gateways} {draws : Draws} {w u : World} (hs : w.store.HasWords)
    (hc : c.operation? = some operation) (h : operation.perform gateways draws w = .ok answer u) :
    c.Expects answer := by
  cases c
  case health => cases hc
  case sendVerdict provider verdict =>
    cases provider
    case wallet => cases hc
    all_goals
      cases hc
      obtain ⟨payment, -, rfl⟩ := Service.map_eq_ok.1 h
      trivial
  all_goals cases hc
  case wallet user =>
    obtain ⟨opened, hopen, rfl⟩ := Service.map_eq_ok.1 h
    exact hs.of_openWallet (World.store_of_attempt_ok (Service.liftStore_eq_ok.1 hopen))
  case balance user =>
    obtain ⟨sum, hbalance, rfl⟩ := Service.map_eq_ok.1 h
    obtain ⟨found, v, hfind, hsum⟩ := Service.bind_eq_ok.1 hbalance
    have hfound := (World.of_look_ok (Service.liftStore_eq_ok.1 hfind)).1
    cases found with
    | none =>
        obtain ⟨rfl, -⟩ := Service.pure_eq_ok.1 hsum
        rfl
    | some found =>
        obtain ⟨rfl, -⟩ := Service.pure_eq_ok.1 hsum
        exact hs.of_findWallet hfound
  all_goals
    obtain ⟨_, -, rfl⟩ := Service.map_eq_ok.1 h
    trivial

/-- A value that is read back is what the client answers. -/
theorem read_value {α : Type} [Wire α] {a : α} (ha : Wire.RoundTrips a) (view : α → Reply)
    {response : Http.Response} {status : Nat} (hresponse : response = .ofJson status (Wire.write a))
    (hstatus : 200 ≤ status ∧ status < 300)
    (hread : ∀ body, c.readGranted body = readAs α view body) :
    c.read response.status response.text = .ok (view a) := by
  have htext : response.text = Wire.encode a := by rw [hresponse, Http.Response.text_ofJson, Wire.encode]
  have hgranted : 200 ≤ response.status ∧ response.status < 300 := by rwa [hresponse]
  rw [htext, read, if_pos hgranted, hread, readAs, ha.decode_encode]

theorem read_granted (hc : c.operation? = some operation) (h : c.Expects answer) :
    c.read (Http.respond operation (.ok answer)).status (Http.respond operation (.ok answer)).text =
      .ok (c.granted answer) := by
  have hok : 200 ≤ 200 ∧ 200 < 300 := by decide
  cases c
  case health => cases hc
  case sendVerdict provider verdict =>
    cases provider
    case wallet => cases hc
    all_goals
      cases hc
      exact read_value (Acknowledgement.kept ⟨true⟩).roundTrips .acknowledgement rfl hok fun _ => rfl
  case wallet user =>
    cases hc
    cases answer
    case wallet stored => exact read_value (Wallet.kept h).roundTrips (.answer ∘ .wallet) rfl hok fun _ => rfl
    all_goals exact h.elim
  case balance user =>
    cases hc
    cases answer
    case balance sum =>
      exact read_value (a := BalanceReport.mk user sum) (BalanceReport.kept (b := ⟨user, sum⟩) h).roundTrips
        (.answer ∘ .balance ∘ BalanceReport.balance) rfl hok fun _ => rfl
    all_goals exact h.elim
  case deposit user amount description | withdraw user amount description =>
    cases hc
    cases answer
    case entry e => exact read_value e.kept.roundTrips (.answer ∘ .entry) rfl hok fun _ => rfl
    all_goals exact h.elim
  case history user limit offset =>
    cases hc
    cases answer
    case entries es =>
      exact read_value (Wire.RoundTrips.list fun e _ => e.kept.roundTrips) (.answer ∘ .entries) rfl hok
        fun _ => rfl
    all_goals exact h.elim
  case payments user limit offset =>
    cases hc
    cases answer
    case payments ps =>
      exact read_value (Wire.RoundTrips.list fun p _ => p.kept.roundTrips) (.answer ∘ .payments) rfl hok
        fun _ => rfl
    all_goals exact h.elim
  case requestPayment user amount method booking =>
    cases hc
    cases answer
    case payment p => exact read_value p.kept.roundTrips (.answer ∘ .payment) rfl (by decide) fun _ => rfl
    all_goals exact h.elim
  case payment id | refund id =>
    cases hc
    cases answer
    case payment p => exact read_value p.kept.roundTrips (.answer ∘ .payment) rfl hok fun _ => rfl
    all_goals exact h.elim
  case checkout id =>
    cases hc
    cases answer
    case checkout opened => exact read_value opened.kept.roundTrips (.answer ∘ .checkout) rfl hok fun _ => rfl
    all_goals exact h.elim

/-! ## Refusals -/

theorem read_refusal (hc : c ≠ .health) (h : error ≠ .timedOut) :
    c.read (Http.refusal error).status (Http.refusal error).text =
      .error (.refused error.status (some error.kind) error.message) := by
  have hbody : Http.refusal error = .ofJson error.status (.object [("error", .text error.message),
      ("kind", .text error.kind), ("code", Json.int error.status)]) := by
    cases error <;> first | rfl | exact absurd rfl h
  have hstatus : 400 ≤ error.status ∧ error.status < 600 := by
    cases error <;> exact ⟨by simp [ServiceError.status], by simp [ServiceError.status]⟩
  have hword : Numeral.isWord error.status := by
    rw [Numeral.isWord_iff]
    omega
  have hplain : ∀ m ∈ [("error", Json.text error.message), ("kind", Json.text error.kind),
      ("code", Json.int error.status)], Json.IsPlain m.2 := by
    simp only [List.forall_mem_cons, List.not_mem_nil, false_imp_iff, implies_true, and_true]
    exact ⟨Json.isPlain_text _, Json.isPlain_text _, Json.isPlain_int hword⟩
  have hparse := Json.parse?_object (List.cons_ne_nil _ _) hplain
  have hgrant : ¬ (200 ≤ error.status ∧ error.status < 300) := by omega
  rw [hbody, Http.Response.status_ofJson, Http.Response.text_ofJson, read, if_neg hgrant, if_neg hc,
    refusal]
  simp [hparse, Json.member?, Json.text?]

theorem refused_of_ne (c : Call) (h : ∀ what, error ≠ .paymentNotFound what) :
    c.refused error = .error (.refused error.status (some error.kind) error.message) := by
  unfold refused
  split
  · exact absurd rfl (h _)
  · rfl

theorem read_refused (hc : c.operation? = some operation) (h : error ≠ .timedOut) :
    c.read (Http.respond operation (.error error)).status (Http.respond operation (.error error)).text =
      c.refused error := by
  have hhealth : c ≠ .health := by
    rintro rfl
    cases hc
  have hrefusal := read_refusal hhealth h
  cases c
  case health => cases hc
  case sendVerdict provider verdict =>
    cases provider
    case wallet => cases hc
    all_goals
      cases hc
      cases error
      case paymentNotFound what =>
        exact read_value (Acknowledgement.kept ⟨true⟩).roundTrips .acknowledgement rfl (by decide)
          fun _ => rfl
      all_goals exact hrefusal
  all_goals
    cases hc
    exact hrefusal

end Call

/-- Whether a call that was served left the world that the services leave, and its reply is made of what
they answer. There is no reply to a call that waited for a gateway for too long. -/
def Call.Conveys (c : Call) (served : Http.Response × World) :
    EStateM.Result ServiceError World Answer → Prop
  | .ok answer left =>
    served.2 = left ∧ c.read served.1.status served.1.text = .ok (c.granted answer)
  | .error error left =>
    served.2 = left ∧ (error ≠ .timedOut → c.read served.1.status served.1.text = c.refused error)

/-- A call through client and server is as good as one of the services themselves. -/
theorem Call.refines_services (gateways : Gateways) (draws : Draws) (origin : Origin) (slashes : Nat)
    {c : Call} {w : World} (hc : c ≠ .health) (hwords : c.HasWords) (hstore : w.store.HasWords)
    (hsize : (c.request (origin.base slashes)).body.utf8ByteSize ≤ Http.bodyLimit) :
    c.Conveys (Http.serve gateways draws (c.request (origin.base slashes)) w)
      (c.direct gateways draws w) := by
  have hresolve := c.resolve_request origin slashes hc hwords hsize
  have hmethod : (c.request (origin.base slashes)).method ≠ .head := by
    cases c <;> exact nofun
  have hserve : Http.serve gateways draws (c.request (origin.base slashes)) w =
      Http.serveFully gateways draws (c.request (origin.base slashes)) w := by
    simp [Http.serve, hmethod]
  rw [hserve, Http.serveFully, hresolve]
  cases hoperation : c.operation? with
  | none =>
      -- A verdict in the name of a wallet is refused before any service is asked.
      simp only [Call.direct, hoperation]
      refine ⟨rfl, fun herror => ?_⟩
      rw [Call.refused_of_ne c (by simp), Call.read_refusal hc herror]
  | some operation =>
      simp only [Call.direct, hoperation]
      cases hperform : operation.perform gateways draws w with
      | ok answer left =>
          exact ⟨rfl, Call.read_granted hoperation (Call.expects_of_perform hstore hoperation hperform)⟩
      | error error left => exact ⟨rfl, fun herror => Call.read_refused hoperation herror⟩

/-- The server that a client asks if it is told no other. -/
def Origin.localhost : Origin where
  scheme := "http".toList
  server := "localhost:3000".toList
  scheme_all := by decide
  server_ne_nil := by decide
  server_any := by decide

/-- A call for money, with quotes in its message. -/
def Call.gift : Call := .withdraw ⟨.ofDigit 7⟩ 500 (some "a \"gift\"\n")

/-- A user without a wallet asks for money. -/
theorem Call.refines_gift :
    gift.HasWords ∧ ∃ served,
      served = Http.serve (.hosted Gateway.defaultBaseA Gateway.defaultBaseB) (.ofDigit 1)
        (gift.request (Origin.localhost.base 2)) {} ∧
      served.2 = {} ∧ gift.read served.1.status served.1.text =
        .error (.refused 400 (some "insufficient_balance")
          "Insufficient balance: available 0, requested 500") := by
  have hwords : gift.HasWords := (by decide : Numeral.isWord 500 = true)
  have hstore : ({} : World).store.HasWords := fun _ hrow => absurd hrow List.not_mem_nil
  have hsize : (gift.request (Origin.localhost.base 2)).body.utf8ByteSize ≤ Http.bodyLimit := by
    decide +kernel
  have hdirect : gift.direct (.hosted Gateway.defaultBaseA Gateway.defaultBaseB) (.ofDigit 1) {} =
      .error (.insufficientBalance 0 500) {} := rfl
  have hrefused : gift.refused (.insufficientBalance 0 500) =
      .error (.refused 400 (some "insufficient_balance")
        "Insufficient balance: available 0, requested 500") := by
    decide +kernel
  have h := refines_services (.hosted Gateway.defaultBaseA Gateway.defaultBaseB) (.ofDigit 1)
    .localhost 2 (by decide : gift ≠ .health) hwords hstore hsize
  rw [hdirect] at h
  exact ⟨hwords, _, rfl, h.1, (h.2 nofun).trans hrefused⟩

end Purse
