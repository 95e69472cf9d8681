import Purse.Http.Api
import Purse.Proofs.Json.Respelling
import Purse.Proofs.Target

/-!
# Identifiers in requests

An identifier in a request stands in a part of the path or in a member of the body. Only what it spells is
looked at: two requests that spell the same identifiers leave the same store and get the same response,
except that a complaint about the body may name another place in it. This holds as far as the lengths of
target and body go, which are limited. A part of a path that spells no identifier is refused.
-/
namespace Purse
namespace Http

/-! ## Parts of a path -/

/-- A part of a path that spells an identifier once it is decoded. -/
def Spells (part : List Char) (u : Uuid) : Prop :=
  ∃ text, percentDecode? part = some text ∧ Uuid.IsSpelling text.toList u

/-- A part of a path that can be decoded and spells no identifier. -/
def SpellsNone (part : List Char) : Prop :=
  ∃ text, percentDecode? part = some text ∧ ∀ u, ¬Uuid.IsSpelling text.toList u

/-- Everything of two requests but the path and the body is the same. -/
structure Request.Matches (r r' : Request) : Prop where
  method : r.method = r'.method
  query : r.query = r'.query
  contentType : r.contentType = r'.contentType

/-- Whether this may follow a part of a path. -/
def EndsPart (tail : List Char) : Prop := tail = [] ∨ ∃ cs, tail = '/' :: cs

/-- In the target of the one request a part of the path stands where another part stands in the target of the
other. -/
structure Request.Swaps (group : String) (part part' : List Char) (r r' : Request) : Prop where
  method : r.method = r'.method
  contentType : r.contentType = r'.contentType
  body : r.body = r'.body
  parts : IsPart part ∧ IsPart part'
  target : ∃ front rest, IsFront front ∧ EndsPart (Uri.pathOf rest) ∧
    r.target.toList = front ++ below group (part ++ rest) ∧
    r'.target.toList = front ++ below group (part' ++ rest)

theorem splitAt_append {part tail : List Char} (hslash : '/' ∉ part) (htail : EndsPart tail) :
    splitAt '/' (part ++ tail) = part :: (splitAt '/' tail).tail := by
  induction part with
  | nil =>
      rcases htail with rfl | ⟨cs, rfl⟩
      · rfl
      · simp [splitAt]
  | cons c part ih =>
      rw [List.mem_cons, not_or] at hslash
      rw [List.cons_append, splitAt, if_neg (Ne.symm hslash.1), ih hslash.2]

theorem ofPath?_below {group : String} (hgroup : '/' ∉ group.toList) {part tail : List Char}
    (hslash : '/' ∉ part) (htail : EndsPart tail) :
    Route.ofPath? (below group (part ++ tail)) = Route.ofApi? group (part :: (splitAt '/' tail).tail) := by
  have hsplit : splitAt '/' (below group (part ++ tail)) =
      [] :: "api".toList :: group.toList :: part :: (splitAt '/' tail).tail := by
    have hrest := splitAt_append hgroup (.inr ⟨part ++ tail, rfl⟩)
    have hslashed : splitAt '/' ('/' :: (part ++ tail)) = [] :: part :: (splitAt '/' tail).tail := by
      rw [splitAt, if_pos rfl, splitAt_append hslash htail]
    rw [hslashed, List.tail_cons] at hrest
    simp [below, splitAt, hrest]
  rw [Route.ofPath?, hsplit]
  simp

/-- What is asked for below a group, but for the identifier that the next part of the path names. -/
def Asks {ι : Type} (readId : String → Except Response ι) (group : String) (tail : List Char) : Prop :=
  ∃ ask : Request → Except Response (ι → Operation),
    (∀ r r', r.Matches r' → r.body = r'.body → ask r = ask r') ∧
    ∀ r part text, part ≠ [] → '/' ∉ part → percentDecode? part = some text →
      r.path = below group (part ++ tail) →
        r.resolve = ask r >>= fun operation => (readId text).map operation

section Asks
variable {ι : Type} {readId : String → Except Response ι} {group : String} {tail : List Char}

theorem asks_none (h : ∀ part, part ≠ [] → '/' ∉ part → Route.ofPath? (below group (part ++ tail)) = none) :
    Asks readId group tail := by
  refine ⟨fun _ => .error ⟨404, none⟩, fun _ _ _ _ => rfl, fun r part text hne hslash _ hpath => ?_⟩
  rw [Request.resolve, hpath, h part hne hslash]
  rfl

/-- A route that reads the part, then something else of the request, and last the identifier. -/
theorem asks_route {α : Type} {route : List Char → Route} (answer : Request → Except Response α)
    (operation : α → ι → Operation)
    (h : ∀ part, part ≠ [] → '/' ∉ part → Route.ofPath? (below group (part ++ tail)) = some (route part))
    (hmethod : ∀ part, (route part).method = (route []).method)
    (hanswer : ∀ r r' : Request, r.Matches r' → r.body = r'.body → answer r = answer r')
    (hresolve : ∀ r part, (route part).resolve r =
      readPart part >>= fun text => answer r >>= fun a => readId text >>= fun id => .ok (operation a id)) :
    Asks readId group tail := by
  refine ⟨fun r => if (route []).accepts r.method then (answer r).map operation else .error ⟨405, none⟩,
    fun r r' hr hbody => ?_, fun r part text hne hslash htext hpath => ?_⟩
  · simp only [hr.method, hanswer r r' hr hbody]
  · have haccepts : (route part).accepts r.method = (route []).accepts r.method := by
      rw [Route.accepts, Route.accepts, hmethod part]
    have hpart : readPart part = .ok text := by rw [readPart, htext]
    rw [Request.resolve, hpath, h part hne hslash]
    simp only [haccepts, hresolve, hpart]
    split_ifs
    · change answer r >>= _ = _
      cases answer r with
      | error response => rfl
      | ok a =>
          change readId text >>= _ = (readId text).map (operation a)
          cases readId text <;> rfl
    · rfl

end Asks

theorem Request.Matches.readPage {r r' : Request} (h : r.Matches r') : r.readPage = r'.readPage := by
  rw [Request.readPage, Request.readPage, h.query]

theorem Request.Matches.readBody {r r' : Request} (h : r.Matches r') (hbody : r.body = r'.body) (α : Type)
    [Wire α] : r.readBody α = r'.readBody α := by
  rw [Request.readBody, Request.readBody, h.contentType, hbody]

theorem asks_users {tail : List Char} (htail : EndsPart tail) : Asks readUser "users" tail := by
  have hpath : ∀ part, part ≠ [] → '/' ∉ part → Route.ofPath? (below "users" (part ++ tail)) =
      Route.ofUser? part ((splitAt '/' tail).tail.map String.ofList) := by
    intro part hne hslash
    rw [ofPath?_below (by decide) hslash htail]
    simp [Route.ofApi?, hne]
  generalize (splitAt '/' tail).tail.map String.ofList = rest at hpath
  unfold Route.ofUser? at hpath
  split_ifs at hpath
  · exact asks_route (fun _ => .ok ()) (fun _ => .wallet) hpath (fun _ => rfl) (fun _ _ _ _ => rfl)
      fun _ _ => rfl
  · exact asks_route (fun _ => .ok ()) (fun _ => .balance) hpath (fun _ => rfl) (fun _ _ _ _ => rfl)
      fun _ _ => rfl
  · exact asks_route (fun r => r.readBody DepositRequest)
      (fun body user => .deposit user body.amount (body.description.getD "Wallet deposit")) hpath
      (fun _ => rfl) (fun _ _ hr hbody => hr.readBody hbody _) fun _ _ => rfl
  · exact asks_route (fun r => r.readBody WithdrawRequest)
      (fun body user => .withdraw user body.amount (body.description.getD "Wallet withdrawal")) hpath
      (fun _ => rfl) (fun _ _ hr hbody => hr.readBody hbody _) fun _ _ => rfl
  · exact asks_route Request.readPage (fun page user => .history user page) hpath (fun _ => rfl)
      (fun _ _ hr _ => hr.readPage) fun _ _ => rfl
  · exact asks_route Request.readPage (fun page user => .payments user page) hpath (fun _ => rfl)
      (fun _ _ hr _ => hr.readPage) fun _ _ => rfl
  · exact asks_none hpath

theorem asks_payments {tail : List Char} (htail : EndsPart tail) : Asks readPayment "payments" tail := by
  have hpath : ∀ part, part ≠ [] → '/' ∉ part → Route.ofPath? (below "payments" (part ++ tail)) =
      Route.ofPayment? part ((splitAt '/' tail).tail.map String.ofList) := by
    intro part hne hslash
    rw [ofPath?_below (by decide) hslash htail]
    simp [Route.ofApi?, hne]
  generalize (splitAt '/' tail).tail.map String.ofList = rest at hpath
  unfold Route.ofPayment? at hpath
  split_ifs at hpath
  · exact asks_route (fun _ => .ok ()) (fun _ => .payment) hpath (fun _ => rfl) (fun _ _ _ _ => rfl)
      fun _ _ => rfl
  · exact asks_route (fun _ => .ok ()) (fun _ => .checkout) hpath (fun _ => rfl) (fun _ _ _ _ => rfl)
      fun _ _ => rfl
  · exact asks_route (fun _ => .ok ()) (fun _ => .refundPayment) hpath (fun _ => rfl) (fun _ _ _ _ => rfl)
      fun _ _ => rfl
  · exact asks_none hpath

/-! ## What a part names -/

theorem ofText?_of_isSpelling {text : String} {u : Uuid} (h : Uuid.IsSpelling text.toList u) :
    Uuid.ofText? text = some u := by
  rw [Uuid.ofText?, Uuid.ofChars?_eq_some.2 h]

theorem ofText?_of_not_isSpelling {text : String} (h : ∀ u, ¬Uuid.IsSpelling text.toList u) :
    Uuid.ofText? text = none := by
  rw [Option.eq_none_iff_forall_ne_some]
  exact fun u hu => h u (Uuid.ofChars?_eq_some.1 hu)

theorem Spells.ne_nil {part : List Char} {u : Uuid} (h : Spells part u) : part ≠ [] := by
  rintro rfl
  obtain ⟨text, htext, hspells⟩ := h
  obtain rfl : String.ofList [] = text := Option.some.inj htext
  rw [String.toList_ofList] at hspells
  exact absurd (Uuid.ofChars?_eq_some.2 hspells) nofun

/-- Below a group a part of the path names something by what it spells, and is refused for this reason if it
spells nothing. -/
structure Names {ι : Type} (readId : String → Except Response ι) (group reason : String) : Prop where
  plain : ∀ c ∈ group.toList, Uri.isPathChar c = true
  asks : ∀ tail, EndsPart tail → Asks readId group tail
  named : ∃ name : Uuid → ι, ∀ text u, Uuid.IsSpelling text.toList u → readId text = .ok (name u)
  refused : ∀ text, (∀ u, ¬Uuid.IsSpelling text.toList u) →
    readId text = .error (refusal (.badRequest reason))

theorem names_users : Names readUser "users" "Invalid user ID" where
  plain := List.all_eq_true.1 rfl
  asks _ := asks_users
  named := ⟨UserId.mk, fun text u h => by
    rw [readUser, UserId.ofText?, ofText?_of_isSpelling h]
    rfl⟩
  refused text h := by
    rw [readUser, UserId.ofText?, ofText?_of_not_isSpelling h]
    rfl

theorem names_payments : Names readPayment "payments" "Invalid payment ID" where
  plain := List.all_eq_true.1 rfl
  asks _ := asks_payments
  named := ⟨PaymentId.mk, fun text u h => by
    rw [readPayment, PaymentId.ofText?, ofText?_of_isSpelling h]
    rfl⟩
  refused text h := by
    rw [readPayment, PaymentId.ofText?, ofText?_of_not_isSpelling h]
    rfl

/-! ## Parts in the place of others -/

section Swaps
variable {ι : Type} {readId : String → Except Response ι} {group reason : String}
  (hnames : Names readId group reason) {part part' : List Char} {u : Uuid} {r r' : Request}

theorem IsPart.slash (h : IsPart part) : '/' ∉ part := fun hmem => (h '/' hmem).2 rfl

include hnames

theorem Request.Swaps.toMatches (h : r.Swaps group part part' r') : r.Matches r' := by
  obtain ⟨front, rest, hfront, -, htarget, htarget'⟩ := h.target
  refine ⟨h.method, ?_, h.contentType⟩
  rw [Request.query_eq_rest hfront hnames.plain h.parts.1 htarget,
    Request.query_eq_rest hfront hnames.plain h.parts.2 htarget']

theorem Request.Swaps.path (h : r.Swaps group part part' r') :
    ∃ tail, EndsPart tail ∧ r.path = below group (part ++ tail) ∧ r'.path = below group (part' ++ tail) := by
  obtain ⟨front, rest, hfront, hrest, htarget, htarget'⟩ := h.target
  exact ⟨Uri.pathOf rest, hrest, Request.path_eq_below hfront hnames.plain h.parts.1 htarget,
    Request.path_eq_below hfront hnames.plain h.parts.2 htarget'⟩

/-- Where two parts spell the same, they may stand for each other. -/
theorem Request.Swaps.resolve_eq (h : r.Swaps group part part' r') (hspells : Spells part u)
    (hspells' : Spells part' u) : r.resolve = r'.resolve := by
  obtain ⟨text, htext, hid⟩ := id hspells
  obtain ⟨text', htext', hid'⟩ := id hspells'
  obtain ⟨tail, htail, hpath, hpath'⟩ := h.path hnames
  obtain ⟨ask, hask, hresolve⟩ := hnames.asks tail htail
  obtain ⟨name, hname⟩ := hnames.named
  rw [hresolve r part text hspells.ne_nil h.parts.1.slash htext hpath,
    hresolve r' part' text' hspells'.ne_nil h.parts.2.slash htext' hpath',
    hask r r' (h.toMatches hnames) h.body, hname text u hid, hname text' u hid']

/-- A part that spells nothing is the last thing to be wrong with a request. -/
theorem Request.Swaps.resolve_error (h : r.Swaps group part part' r') (hne : part ≠ [])
    (hnone : SpellsNone part) (hspells' : Spells part' u) {operation : Operation}
    (hresolved : r'.resolve = .ok operation) : r.resolve = .error (refusal (.badRequest reason)) := by
  obtain ⟨text, htext, hid⟩ := hnone
  obtain ⟨text', htext', -⟩ := id hspells'
  obtain ⟨tail, htail, hpath, hpath'⟩ := h.path hnames
  obtain ⟨ask, hask, hresolve⟩ := hnames.asks tail htail
  rw [hresolve r' part' text' hspells'.ne_nil h.parts.2.slash htext' hpath'] at hresolved
  rw [hresolve r part text hne h.parts.1.slash htext hpath, hask r r' (h.toMatches hnames) h.body,
    hnames.refused text hid]
  cases hanswer : ask r' with
  | error other => rw [hanswer] at hresolved; cases hresolved
  | ok named => rfl

/-- The target can be read with the one part if it can be read with the other. -/
theorem Request.Swaps.isSome_target (h : r.Swaps group part part' r')
    (hsize : r.target.utf8ByteSize ≤ Uri.maxSize) (hsize' : r'.target.utf8ByteSize ≤ Uri.maxSize) :
    (Uri.ofText? r.target).isSome = (Uri.ofText? r'.target).isSome := by
  obtain ⟨front, rest, hfront, -, htarget, htarget'⟩ := h.target
  rw [← Text.size_toList, htarget] at hsize
  rw [← Text.size_toList, htarget'] at hsize'
  rw [Uri.ofText?, Uri.ofText?, htarget, htarget']
  exact isSome_ofChars?_swap hfront hnames.plain h.parts.1 h.parts.2 hsize hsize'

end Swaps

/-- Requests that differ in the spelling of an identifier: of a user or a payment in the path, or of a user
or a booking in the body of a payment request. -/
inductive Request.Respells : Request → Request → Prop
  | user {r r' : Request} {part part' : List Char} {u : Uuid} : Spells part u → Spells part' u →
      r.Swaps "users" part part' r' → Respells r r'
  | payment {r r' : Request} {part part' : List Char} {u : Uuid} : Spells part u → Spells part' u →
      r.Swaps "payments" part part' r' → Respells r r'
  | body {r : Request} {body : String} : r.path = "/api/payments".toList → Json.Respells r.body body →
      Respells r { r with body }

/-! ## Responses -/

/-- Two responses that are the same, but that a complaint may name another place. -/
inductive Response.SameButPlace : Response → Response → Prop
  | same (response : Response) : SameButPlace response response
  | complaint (status : Nat) (words : String) (place place' : Nat × Nat) :
      SameButPlace (.ofComplaint status ⟨words, some place⟩) (.ofComplaint status ⟨words, some place'⟩)

/-- The same store is left, with the same response but for a place. -/
def Agree (served served' : Response × World) : Prop :=
  served.1.SameButPlace served'.1 ∧ served.2 = served'.2

/-- The same is read, or responses are given that are the same but for a place. -/
def Alike {α : Type} : Except Response α → Except Response α → Prop
  | .ok a, .ok b => a = b
  | .error response, .error response' => response.SameButPlace response'
  | _, _ => False

theorem Agree.refl (served : Response × World) : Agree served served := ⟨.same served.1, rfl⟩

section Alike
variable {α β : Type} {x y : Except Response α}

theorem Alike.refl (x : Except Response α) : Alike x x := by
  cases x with
  | ok a => exact rfl
  | error response => exact .same response

theorem Alike.bind (h : Alike x y) (f : α → Except Response β) : Alike (x >>= f) (y >>= f) := by
  cases x <;> cases y
  case ok.ok a b =>
    obtain rfl : a = b := h
    exact .refl (f a)
  case error.error response response' => exact h
  all_goals exact h.elim

end Alike

/-- What is wrong with two bodies for the same reason, each in some place. -/
theorem alike_unreadable {body body' : String} {flaw flaw' : Json.Flaw} (hfault : flaw.fault = flaw'.fault)
    (h : ∃ left, flaw.place = .settled left) (h' : ∃ left, flaw'.place = .settled left) :
    (unreadable body flaw).SameButPlace (unreadable body' flaw') := by
  obtain ⟨fault, place⟩ := flaw
  obtain ⟨fault', place'⟩ := flaw'
  obtain ⟨left, rfl⟩ := h
  obtain ⟨left', rfl⟩ := h'
  obtain rfl : fault = fault' := hfault
  cases fault <;> exact .complaint _ _ _ _

theorem Request.alike_readBody {r : Request} {body : String} {α : Type} [Record α]
    (hsize : bodyLimit < r.body.utf8ByteSize ↔ bodyLimit < body.utf8ByteSize)
    (hdecode : Json.forget (Wire.decode α r.body) = Json.forget (Wire.decode α body))
    (hplaced : Json.Placed (Wire.decode α r.body) ∧ Json.Placed (Wire.decode α body)) :
    Alike (r.readBody α) ({ r with body }.readBody α) := by
  simp only [Request.readBody, ← hsize]
  split_ifs
  · exact .refl _
  · exact .refl _
  cases hread : Wire.decode α r.body with
  | ok a =>
      rw [hread, Json.forget_ok] at hdecode
      rw [Json.forget_eq_ok.1 hdecode.symm]
      exact rfl
  | error flaw =>
      cases hread' : Wire.decode α body with
      | ok a => rw [hread, hread'] at hdecode; cases hdecode
      | error flaw' =>
          rw [hread, hread'] at hdecode
          exact alike_unreadable (Except.error.inj hdecode) (hplaced.1 flaw hread) (hplaced.2 flaw' hread')

theorem Request.alike_resolve {r : Request} {body : String} (hpath : r.path = "/api/payments".toList)
    (hsize : bodyLimit < r.body.utf8ByteSize ↔ bodyLimit < body.utf8ByteSize)
    (hbody : Json.Respells r.body body) : Alike r.resolve { r with body }.resolve := by
  have hroute : Route.ofPath? "/api/payments".toList = some .payments := by decide
  have hpath' : { r with body }.path = "/api/payments".toList := hpath
  have hread := r.alike_readBody hsize hbody.decode hbody.placed
  simp only [Request.resolve, hpath, hpath', hroute]
  split_ifs
  · exact hread.bind _
  · exact .refl _

variable {gateways : Gateways} {draws : Draws} {w : World}

theorem agree_serve {r r' : Request} (hmethod : r.method = r'.method) (h : Alike r.resolve r'.resolve) :
    Agree (serve gateways draws r w) (serve gateways draws r' w) := by
  simp only [serve, serveFully, ← hmethod]
  cases hresolve : r.resolve <;> cases hresolve' : r'.resolve <;> rw [hresolve, hresolve'] at h
  case ok.ok operation operation' =>
    obtain rfl : operation = operation' := h
    exact .refl _
  case error.error response response' =>
    refine ⟨?_, rfl⟩
    cases h with
    | same => exact .same _
    | complaint status words place place' =>
        dsimp only
        split_ifs
        · exact .same _
        · exact .complaint status words place place'
  all_goals exact h.elim

theorem serve_congr {r r' : Request} (hmethod : r.method = r'.method) (hresolve : r.resolve = r'.resolve) :
    serve gateways draws r w = serve gateways draws r' w := by
  simp only [serve, serveFully, hmethod, hresolve]

theorem receive_eq_serve {r : Request} (hsize : r.target.utf8ByteSize ≤ Uri.maxSize)
    (hread : (Uri.ofText? r.target).isSome) : receive gateways draws r w = serve gateways draws r w := by
  rw [receive, if_neg (Nat.not_lt.2 hsize), if_neg]
  simpa [← Option.isSome_iff_ne_none] using hread

/-- Two requests are received alike if they are served alike and their targets can be read alike. -/
theorem receive_congr {r r' : Request}
    (hsize : Uri.maxSize < r.target.utf8ByteSize ↔ Uri.maxSize < r'.target.utf8ByteSize)
    (hread : r.target.utf8ByteSize ≤ Uri.maxSize → r'.target.utf8ByteSize ≤ Uri.maxSize →
      (Uri.ofText? r.target).isSome = (Uri.ofText? r'.target).isSome)
    (h : serve gateways draws r w = serve gateways draws r' w) :
    receive gateways draws r w = receive gateways draws r' w := by
  by_cases hlong : Uri.maxSize < r.target.utf8ByteSize
  · rw [receive, receive, if_pos hlong, if_pos (hsize.1 hlong)]
  · have hsome := hread (Nat.not_lt.1 hlong) (Nat.not_lt.1 (mt hsize.2 hlong))
    have hnone : (Uri.ofText? r.target).isNone = (Uri.ofText? r'.target).isNone := by
      rw [← Option.not_isSome, hsome, Option.not_isSome]
    rw [receive, receive, if_neg hlong, if_neg (mt hsize.2 hlong), hnone, h]

/-- A body may be exchanged as far as that makes no difference for the serving. -/
theorem agree_receive {r : Request} {body : String}
    (h : Agree (serve gateways draws r w) (serve gateways draws { r with body } w)) :
    Agree (receive gateways draws r w) (receive gateways draws { r with body } w) := by
  unfold receive
  split_ifs
  · exact .refl _
  · exact .refl _
  · exact h

/-- Where two parts spell the same, nothing changes. -/
theorem Request.Swaps.receive_eq {ι : Type} {readId : String → Except Response ι} {group reason : String}
    (hnames : Names readId group reason) {r r' : Request} {part part' : List Char} {u : Uuid}
    (h : r.Swaps group part part' r') (hspells : Spells part u) (hspells' : Spells part' u)
    (hsize : Uri.maxSize < r.target.utf8ByteSize ↔ Uri.maxSize < r'.target.utf8ByteSize) :
    receive gateways draws r w = receive gateways draws r' w :=
  receive_congr hsize (h.isSome_target hnames)
    (serve_congr h.method (h.resolve_eq hnames hspells hspells'))

theorem Request.Respells.agree {r r' : Request} (h : r.Respells r')
    (hbody : bodyLimit < r.body.utf8ByteSize ↔ bodyLimit < r'.body.utf8ByteSize)
    (htarget : Uri.maxSize < r.target.utf8ByteSize ↔ Uri.maxSize < r'.target.utf8ByteSize) :
    Agree (receive gateways draws r w) (receive gateways draws r' w) ∧
      (r.body = r'.body → receive gateways draws r w = receive gateways draws r' w) := by
  cases h with
  | user hspells hspells' hswaps =>
      have heq : receive gateways draws r w = receive gateways draws r' w :=
        hswaps.receive_eq names_users hspells hspells' htarget
      exact ⟨heq ▸ .refl _, fun _ => heq⟩
  | payment hspells hspells' hswaps =>
      have heq : receive gateways draws r w = receive gateways draws r' w :=
        hswaps.receive_eq names_payments hspells hspells' htarget
      exact ⟨heq ▸ .refl _, fun _ => heq⟩
  | @body body hpath hrespells =>
      refine ⟨agree_receive (agree_serve rfl (alike_resolve hpath hbody hrespells)), ?_⟩
      rintro rfl
      rfl

/-! ## Parts that spell nothing -/

/-- A well-formed request that stands for an operation. -/
structure Request.StandsFor (r : Request) (operation : Operation) : Prop where
  target : (Uri.ofText? r.target).isSome
  resolve : r.resolve = .ok operation

theorem Request.StandsFor.size_target {r : Request} {operation : Operation} (h : r.StandsFor operation) :
    r.target.utf8ByteSize ≤ Uri.maxSize := by
  rw [← Text.size_toList]
  exact Uri.size_of_isSome h.target

/-- The response to a request that names something by a part that spells nothing. Who only looks is not told
the reason. -/
def misnamed (reason : String) (m : Method) : Response :=
  ⟨400, if m = .head then none else (refusal (.badRequest reason)).content⟩

theorem serve_misnamed {r : Request} {reason : String}
    (h : r.resolve = .error (refusal (.badRequest reason))) :
    serve gateways draws r w = (misnamed reason r.method, w) := by
  simp only [serve, serveFully, h, misnamed]
  split_ifs <;> rfl

/-- A request that spells nothing where another request of the same kind names something. -/
theorem Request.Swaps.receive_misnamed {ι : Type} {readId : String → Except Response ι}
    {group reason : String} (hnames : Names readId group reason) {r r' : Request} {part part' : List Char}
    {u : Uuid} {operation : Operation} (h : r.Swaps group part part' r') (hne : part ≠ [])
    (hnone : SpellsNone part) (hspells : Spells part' u) (hr' : r'.StandsFor operation)
    (hsize : r.target.utf8ByteSize ≤ Uri.maxSize) :
    receive gateways draws r w = (misnamed reason r.method, w) := by
  have htarget := h.isSome_target hnames hsize hr'.size_target
  rw [receive_eq_serve hsize (htarget.trans hr'.target)]
  exact serve_misnamed (h.resolve_error hnames hne hnone hspells hr'.resolve)

/-- Identifiers go by what they spell, in the path and in the body, and a part of a path that spells none is
refused. A spelling counts as part of the length of the target or the body that it stands in, and moves what
follows it on its line. -/
theorem spelling_indifferent (gateways : Gateways) (draws : Draws) (w : World) :
    (∀ r r' : Request, r.Respells r' →
      (bodyLimit < r.body.utf8ByteSize ↔ bodyLimit < r'.body.utf8ByteSize) →
      (Uri.maxSize < r.target.utf8ByteSize ↔ Uri.maxSize < r'.target.utf8ByteSize) →
      Agree (receive gateways draws r w) (receive gateways draws r' w) ∧
        (r.body = r'.body → receive gateways draws r w = receive gateways draws r' w)) ∧
    (∀ (r r' : Request) (part part' : List Char) (u : Uuid) (operation : Operation),
      r.Swaps "users" part part' r' → part ≠ [] → SpellsNone part → Spells part' u →
      r'.StandsFor operation → r.target.utf8ByteSize ≤ Uri.maxSize →
      receive gateways draws r w = (misnamed "Invalid user ID" r.method, w)) ∧
    (∀ (r r' : Request) (part part' : List Char) (u : Uuid) (operation : Operation),
      r.Swaps "payments" part part' r' → part ≠ [] → SpellsNone part → Spells part' u →
      r'.StandsFor operation → r.target.utf8ByteSize ≤ Uri.maxSize →
      receive gateways draws r w = (misnamed "Invalid payment ID" r.method, w)) :=
  ⟨fun _ _ h hbody htarget => h.agree hbody htarget,
    fun _ _ _ _ _ _ hswaps hne hnone hspells hr' hsize =>
      hswaps.receive_misnamed names_users hne hnone hspells hr' hsize,
    fun _ _ _ _ _ _ hswaps hne hnone hspells hr' hsize =>
      hswaps.receive_misnamed names_payments hne hnone hspells hr' hsize⟩

/-! ## What a longer spelling changes -/

/-- The identifier of zeros. -/
def nilId : Uuid := ⟨List.replicate 32 (lastHexDigit 0), rfl⟩

/-- The shortest spelling of it. -/
def nilDigits : List Char := nilId.digits.map hexChar

/-- The members of a request for a payment of nothing. -/
def nothingFor (method : String) (spelling : List Char) : List Json.Member :=
  [("user_id", '"' :: (spelling ++ ['"'])), ("amount", ['0']), ("method", '"' :: (method.toList ++ ['"']))]

/-- That request with so many blanks behind it. -/
def padded (method : String) (blanks : Nat) (spelling : List Char) : Request where
  method := .post
  target := "/api/payments"
  contentType := some "application/json"
  body := String.ofList ('\x7b' :: (Json.compactMembers (nothingFor method spelling) ++ ['\x7d']) ++
    List.replicate blanks ' ')

theorem isSpelling_nilDigits : Uuid.IsSpelling nilDigits nilId := by
  unfold Uuid.IsSpelling
  decide

theorem isSpelling_chars_nilId : Uuid.IsSpelling nilId.chars nilId := by
  unfold Uuid.IsSpelling
  decide

theorem bare_nilDigits : ∀ c ∈ nilDigits, Json.IsBare c := Json.bare_of_all (by decide)

theorem bare_chars_nilId : ∀ c ∈ nilId.chars, Json.IsBare c := Json.bare_of_all (by decide)

section Padded
variable {method : String} (hmethod : ∀ c ∈ method.toList, Json.IsBare c) (blanks : Nat)
  {spelling : List Char}

theorem path_padded : (padded method blanks spelling).path = "/api/payments".toList := by
  have hpath {r : Request} (h : r.target = "/api/payments") : r.path = "/api/payments".toList := by
    simp only [Request.path, Request.relativeTarget, h]
    decide
  exact hpath rfl

theorem size_padded : (padded method blanks spelling).body.utf8ByteSize =
    Text.size ('\x7b' :: (Json.compactMembers (nothingFor method spelling) ++ ['\x7d'])) + blanks := by
  rw [padded, Text.size_ofList, Text.size_append, Text.size_replicate blanks rfl]

include hmethod in
theorem holds_padded (hplain : ∀ c ∈ spelling, Json.IsBare c) :
    Json.Holds (Json.IsObject (nothingFor method spelling)) (padded method blanks spelling).body := by
  have hmembers : ∀ m ∈ nothingFor method spelling, (∀ c ∈ m.1.toList, Json.IsBare c) ∧ Json.IsValue m.2 := by
    have hid : Json.IsValue ('"' :: (spelling ++ ['"'])) := .text (Json.SpellsText.of_plain hplain).isText
    have hamount : Json.IsValue ['0'] := .number (.positive (.intro .zero .none .none))
    have hname : Json.IsValue ('"' :: (method.toList ++ ['"'])) :=
      .text (Json.SpellsText.of_plain hmethod).isText
    simp only [nothingFor, List.forall_mem_cons, hid, hamount, hname, and_true]
    exact ⟨Json.bare_of_all (by decide), Json.bare_of_all (by decide), Json.bare_of_all (by decide),
      fun _ h => nomatch h⟩
  refine ⟨[], _, List.replicate blanks ' ', Json.blanks_nil, Json.compact_isObject hmembers, ?_, ?_⟩
  · intro c hc
    rw [List.eq_of_mem_replicate hc]
    rfl
  · rw [padded, String.toList_ofList]
    rfl

include hmethod in
theorem respells_padded :
    (padded method blanks nilDigits).Respells (padded method blanks nilId.chars) := by
  have hspells {cs : List Char} (hplain : ∀ c ∈ cs, Json.IsBare c) (hcs : Uuid.IsSpelling cs nilId) :
      Json.SpellsId ('"' :: (cs ++ ['"'])) nilId := ⟨cs, cs, rfl, .of_plain hplain, hcs⟩
  have hdigits := hspells bare_nilDigits isSpelling_nilDigits
  have hchars := hspells bare_chars_nilId isSpelling_chars_nilId
  have hmembers :
      List.Forall₂ Json.Member.Respells (nothingFor method nilDigits) (nothingFor method nilId.chars) :=
    .cons ⟨rfl, .inr ⟨.inl rfl, nilId, hdigits, hchars⟩⟩
      (.cons ⟨rfl, .inl rfl⟩ (.cons ⟨rfl, .inl rfl⟩ .nil))
  exact .body (path_padded blanks) (.object hmembers (holds_padded hmethod blanks bare_nilDigits)
    (holds_padded hmethod blanks bare_chars_nilId))

theorem resolve_padded : (padded method blanks spelling).resolve =
    (padded method blanks spelling).readBody PaymentRequest >>= fun body =>
      .ok (.requestPayment body.userId body.amount body.method body.bookingId) := by
  have hroute : Route.ofPath? "/api/payments".toList = some .payments := by decide
  rw [Request.resolve, path_padded, hroute]
  rfl

theorem receive_padded : receive gateways draws (padded method blanks spelling) w =
    serve gateways draws (padded method blanks spelling) w := by
  have hsize : "/api/payments".utf8ByteSize ≤ Uri.maxSize := by decide
  have hread : (Uri.ofText? "/api/payments").isSome := by decide
  exact receive_eq_serve hsize hread

theorem media_padded : (padded method blanks spelling).contentType.any isJsonMediaType = true := by
  change isJsonMediaType "application/json" = true
  decide

theorem receive_padded_of_error {response : Response}
    (h : (padded method blanks spelling).readBody PaymentRequest = .error response) :
    receive gateways draws (padded method blanks spelling) w = (response, w) := by
  rw [receive_padded, serve, serveFully, resolve_padded, h]
  rfl

/-- The blanks take a longer spelling beyond the limit of a body. -/
theorem receive_padded_over (h : bodyLimit < (padded method blanks spelling).body.utf8ByteSize) :
    receive gateways draws (padded method blanks spelling) w =
      (.ofComplaint 413 ⟨"Failed to buffer the request body: length limit exceeded", none⟩, w) := by
  apply receive_padded_of_error
  rw [Request.readBody, if_neg (by simp [media_padded]), if_pos h]

end Padded

/-- The blanks do not take the shortest spelling beyond the limit. -/
theorem receive_padded_nilDigits (blanks : Nat) (h : 75 + blanks ≤ bodyLimit) :
    receive gateways draws (padded "wallet" blanks nilDigits) w = (refusal (.invalidAmount 0), w) := by
  have hwallet : ∀ c ∈ "wallet".toList, Json.IsBare c := Json.bare_of_all (by decide)
  have hsize : (padded "wallet" blanks nilDigits).body.utf8ByteSize ≤ bodyLimit := by
    have hshort : Text.size ('\x7b' :: (Json.compactMembers (nothingFor "wallet" nilDigits) ++ ['\x7d'])) =
        75 := by decide
    rwa [size_padded, hshort]
  have hdecode : Wire.decode PaymentRequest (padded "wallet" blanks nilDigits).body =
      .ok ⟨⟨nilId⟩, 0, .wallet, none⟩ := by
    rw [← Json.forget_eq_ok, Record.decode_object (holds_padded hwallet blanks bare_nilDigits)]
    rfl
  rw [receive_padded, serve, serveFully, resolve_padded, Request.readBody,
    if_neg (by simp [media_padded]), if_neg (Nat.not_lt.2 hsize), hdecode]
  rfl

/-- What is wrong with a payment by a method that there is not. -/
def noMethod : Json.Flaw :=
  ⟨.mismatch (.unknownName "paypal" ["wallet", "gateway_a", "gateway_b"]), .settled 1⟩

/-- The response to it, which names the column behind the method. -/
def noMethodAt (column : Nat) : Response :=
  .ofComplaint 422 ⟨"Failed to deserialize the JSON body into the target type: unknown variant `paypal`, " ++
    "expected one of `wallet`, `gateway_a`, `gateway_b`", some (1, column)⟩

theorem receive_padded_noMethod {spelling : List Char} {column : Nat}
    (hsize : (padded "paypal" 0 spelling).body.utf8ByteSize ≤ bodyLimit)
    (hdecode : Wire.decode PaymentRequest (padded "paypal" 0 spelling).body = .error noMethod)
    (hplace : noMethod.position? (padded "paypal" 0 spelling).body = some (1, column)) :
    receive gateways draws (padded "paypal" 0 spelling) w = (noMethodAt column, w) := by
  have hwords : "Failed to deserialize the JSON body into the target type: " ++ noMethod.fault.message =
      "Failed to deserialize the JSON body into the target type: unknown variant `paypal`, " ++
        "expected one of `wallet`, `gateway_a`, `gateway_b`" := by decide +kernel
  apply receive_padded_of_error
  rw [Request.readBody, if_neg (by simp [media_padded]), if_neg (Nat.not_lt.2 hsize), hdecode]
  dsimp only
  rw [unreadable, hplace, hwords]
  rfl

/-- A request for a balance, with a query of so many letters that nobody asks for. -/
def stretched (letters : Nat) (spelling : List Char) : Request where
  method := .get
  target := String.ofList
    (below "users" (spelling ++ ("/wallet/balance?".toList ++ List.replicate letters 'a')))

section Stretched
variable (letters : Nat) {spelling : List Char}

theorem toList_target_stretched : (stretched letters spelling).target.toList =
    below "users" (spelling ++ ("/wallet/balance?".toList ++ List.replicate letters 'a')) :=
  String.toList_ofList

theorem size_stretched : (stretched letters spelling).target.utf8ByteSize =
    Text.size (below "users" (spelling ++ "/wallet/balance?".toList)) + letters := by
  have hbelow : below "users" (spelling ++ ("/wallet/balance?".toList ++ List.replicate letters 'a')) =
      below "users" (spelling ++ "/wallet/balance?".toList) ++ List.replicate letters 'a' := by
    simp [below]
  rw [← Text.size_toList, toList_target_stretched, hbelow, Text.size_append,
    Text.size_replicate letters rfl]

theorem swaps_stretched {spelling' : List Char} (hpart : IsPart spelling) (hpart' : IsPart spelling') :
    (stretched letters spelling).Swaps "users" spelling spelling' (stretched letters spelling') where
  method := rfl
  contentType := rfl
  body := rfl
  parts := ⟨hpart, hpart'⟩
  target := ⟨[], "/wallet/balance?".toList ++ List.replicate letters 'a', .inl rfl, .inr ⟨_, rfl⟩,
    toList_target_stretched letters, toList_target_stretched letters⟩

theorem path_stretched (hpart : IsPart spelling) :
    (stretched letters spelling).path = below "users" (spelling ++ "/wallet/balance".toList) :=
  Request.path_eq_below (.inl rfl) names_users.plain hpart (toList_target_stretched letters)

theorem isSome_target_stretched (hpart : IsPart spelling)
    (hsize : (stretched letters spelling).target.utf8ByteSize ≤ Uri.maxSize) :
    (Uri.ofText? (stretched letters spelling).target).isSome := by
  have hpath := all_pathOf_below names_users.plain hpart
    ("/wallet/balance?".toList ++ List.replicate letters 'a')
  have hquery := queryOf_below names_users.plain hpart
    ("/wallet/balance?".toList ++ List.replicate letters 'a')
  have hrest : (Uri.pathOf ("/wallet/balance?".toList ++ List.replicate letters 'a')).all Uri.isPathChar =
      true := rfl
  have hletters : Uri.queryOf ("/wallet/balance?".toList ++ List.replicate letters 'a') =
      List.replicate letters 'a' := by
    change (List.replicate letters 'a').takeWhile (· ≠ '#') = _
    simp
  rw [← Text.size_toList, toList_target_stretched] at hsize
  rw [Uri.ofText?, toList_target_stretched]
  refine (Uri.isSome_ofChars?_slash hsize).trans ?_
  change ((Uri.pathOf (below "users" _)).all _ && (Uri.queryOf (below "users" _)).all _) = true
  rw [hpath, hrest, hquery, hletters, List.all_replicate, Bool.true_and]
  split_ifs <;> rfl

theorem isPart_nilDigits : IsPart nilDigits := isPart_of_all rfl

theorem isPart_chars_nilId : IsPart nilId.chars := isPart_of_all rfl

theorem respells_stretched :
    (stretched letters nilDigits).Respells (stretched letters nilId.chars) := by
  have hspells {cs : List Char} (hplain : '%' ∉ cs) (hcs : Uuid.IsSpelling cs nilId) : Spells cs nilId :=
    ⟨String.ofList cs, percentDecode?_plain hplain, by rwa [String.toList_ofList]⟩
  exact .user (hspells (by decide) isSpelling_nilDigits) (hspells (by decide) isSpelling_chars_nilId)
    (swaps_stretched letters isPart_nilDigits isPart_chars_nilId)

end Stretched

theorem receive_stretched_nilDigits (letters : Nat) (h : 59 + letters ≤ Uri.maxSize) :
    receive gateways draws (stretched letters nilDigits) {} =
      (.ofJson 200 (Wire.write (BalanceReport.mk ⟨nilId⟩ 0)), {}) := by
  have hsize : (stretched letters nilDigits).target.utf8ByteSize ≤ Uri.maxSize := by
    have hshort : Text.size (below "users" (nilDigits ++ "/wallet/balance?".toList)) = 59 := by decide
    rwa [size_stretched, hshort]
  have hroute : Route.ofPath? (below "users" (nilDigits ++ "/wallet/balance".toList)) =
      some (.balance nilDigits) := by decide
  have hresolve : (stretched letters nilDigits).resolve = .ok (.balance ⟨nilId⟩) := by
    rw [Request.resolve, path_stretched letters isPart_nilDigits, hroute]
    rfl
  rw [receive_eq_serve hsize (isSome_target_stretched letters isPart_nilDigits hsize), serve, serveFully,
    hresolve]
  rfl

theorem receive_stretched_over {letters : Nat} {spelling : List Char}
    (h : Uri.maxSize < (stretched letters spelling).target.utf8ByteSize) :
    receive gateways draws (stretched letters spelling) w = ({ status := 414 }, w) := by
  rw [receive, if_pos h]

/-- What a spelling changes all the same. A longer one takes a body or a target beyond its limit, or moves the
place that a complaint names. And who only looks at something that no identifier names is not told so. -/
theorem spelling_noticed :
    (padded "wallet" (bodyLimit - 75) nilDigits).Respells (padded "wallet" (bodyLimit - 75) nilId.chars) ∧
    (padded "paypal" 0 nilDigits).Respells (padded "paypal" 0 nilId.chars) ∧
    (stretched (Uri.maxSize - 59) nilDigits).Respells (stretched (Uri.maxSize - 59) nilId.chars) ∧
    ∀ (gateways : Gateways) (draws : Draws) (w : World),
      receive gateways draws (padded "wallet" (bodyLimit - 75) nilDigits) w =
        (refusal (.invalidAmount 0), w) ∧
      receive gateways draws (padded "wallet" (bodyLimit - 75) nilId.chars) w =
        (.ofComplaint 413 ⟨"Failed to buffer the request body: length limit exceeded", none⟩, w) ∧
      receive gateways draws (padded "paypal" 0 nilDigits) w = (noMethodAt 74, w) ∧
      receive gateways draws (padded "paypal" 0 nilId.chars) w = (noMethodAt 78, w) ∧
      receive gateways draws (stretched (Uri.maxSize - 59) nilDigits) {} =
        (.ofJson 200 (Wire.write (BalanceReport.mk ⟨nilId⟩ 0)), {}) ∧
      receive gateways draws (stretched (Uri.maxSize - 59) nilId.chars) {} = ({ status := 414 }, {}) ∧
      receive gateways draws { method := .head, target := "/api/users/nonsense/wallet" } w =
        ({ status := 400 }, w) := by
  have hwallet : ∀ c ∈ "wallet".toList, Json.IsBare c := Json.bare_of_all (by decide)
  have hpaypal : ∀ c ∈ "paypal".toList, Json.IsBare c := Json.bare_of_all (by decide)
  have hbody : Text.size ('\x7b' :: (Json.compactMembers (nothingFor "wallet" nilId.chars) ++ ['\x7d'])) =
      79 := by decide
  have htarget : Text.size (below "users" (nilId.chars ++ "/wallet/balance?".toList)) = 63 := by decide
  have hbodyLimit : 75 + (bodyLimit - 75) = bodyLimit := by decide
  have hmaxSize : 59 + (Uri.maxSize - 59) = Uri.maxSize := by decide
  refine ⟨respells_padded hwallet _, respells_padded hpaypal 0, respells_stretched _,
    fun gateways draws w => ⟨receive_padded_nilDigits _ (Nat.le_of_eq hbodyLimit), receive_padded_over _ ?_,
      receive_padded_noMethod ?_ ?_ ?_, receive_padded_noMethod ?_ ?_ ?_,
      receive_stretched_nilDigits _ (Nat.le_of_eq hmaxSize), receive_stretched_over ?_, ?_⟩⟩
  · rw [size_padded, hbody]
    omega
  · decide +kernel
  · decide +kernel
  · decide +kernel
  · decide +kernel
  · decide +kernel
  · decide +kernel
  · rw [size_stretched, htarget]
    omega
  · rw [receive_eq_serve (by decide) (by decide)]
    rfl

end Http
end Purse
