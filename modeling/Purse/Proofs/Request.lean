import Purse.Client
import Purse.Http.Api
import Purse.Proofs.Json.Vocabulary
import Purse.Proofs.Route

/-!
# Requests of calls

A call below the address of a server is a request that the server takes for the operation that the call
stands for: the path leads to its route, names and numbers are read as they were written, and so is the
body. Only a verdict that no gateway can give stands for no operation.
-/
namespace Purse

/-! ## Addresses -/

/-- A scheme and the name of a server. -/
structure Origin where
  scheme : List Char
  server : List Char
  scheme_all : scheme.all Http.Uri.isSchemeChar
  server_ne_nil : server ≠ []
  server_any : server.any Http.Uri.endsServer = false

namespace Origin

variable (o : Origin) (slashes : Nat)

def address : List Char := o.scheme ++ "://".toList ++ o.server

/-- A base address: the origin, and slashes after it. -/
def base : String := String.ofList (o.address ++ List.replicate slashes '/')

theorem trimBase_base : (trimBase (o.base slashes)).toList = o.address := by
  have hlast : ∃ c cs, o.server.reverse = c :: cs ∧ c ≠ '/' := by
    obtain ⟨c, cs, hserver⟩ := List.exists_cons_of_ne_nil (mt List.reverse_eq_nil_iff.1 o.server_ne_nil)
    refine ⟨c, cs, hserver, ?_⟩
    rintro rfl
    exact List.any_eq_false.1 o.server_any '/' (List.mem_reverse.1 (hserver ▸ List.mem_cons_self)) rfl
  obtain ⟨c, cs, hserver, hc⟩ := hlast
  have haddress : o.address.reverse = c :: (cs ++ "://".toList.reverse ++ o.scheme.reverse) := by
    rw [address, List.reverse_append, List.reverse_append, hserver]
    simp
  rw [trimBase, base, String.toList_ofList, String.toList_ofList, List.reverse_append,
    List.reverse_replicate, List.dropWhile_append_of_pos (by simp), haddress,
    List.dropWhile_cons_of_neg (by simpa using hc), ← haddress, List.reverse_reverse]

theorem afterScheme_address (whole rest : List Char) :
    afterScheme whole (o.address ++ rest) = o.server ++ rest := by
  -- The first two slashes in a row are the ones behind the scheme, as a scheme has none.
  have hscheme : ∀ (cs : List Char), (∀ c ∈ cs, c ≠ '/') →
      afterScheme whole (cs ++ "//".toList ++ (o.server ++ rest)) = o.server ++ rest := by
    intro cs hcs
    induction cs with
    | nil => rfl
    | cons c cs ih =>
        have hc := hcs c List.mem_cons_self
        have htail := ih fun d hd => hcs d (List.mem_cons_of_mem c hd)
        rw [List.cons_append, List.cons_append, afterScheme]
        · exact htail
        · intro _ heq
          exact absurd heq hc
  have hslash : ∀ c ∈ o.scheme ++ [':'], c ≠ '/' := by
    rintro c hc rfl
    rcases List.mem_append.1 hc with hmem | hmem
    · cases List.all_eq_true.1 o.scheme_all '/' hmem
    · simp at hmem
  have h := hscheme (o.scheme ++ [':']) hslash
  simpa [address] using h

/-- What is below a base address is sent to the server as it is. -/
theorem targetOf_base {path : String} {cs : List Char} (h : path.toList = '/' :: cs) :
    (targetOf (trimBase (o.base slashes) ++ path)).toList = path.toList := by
  have hserver :
      (o.server ++ '/' :: cs).dropWhile (fun c => c ≠ '/' && c ≠ '?' && c ≠ '#') = '/' :: cs := by
    rw [List.dropWhile_append_of_pos]
    · rfl
    · intro c hc
      have hends := List.any_eq_false.1 o.server_any c hc
      simp_all [Http.Uri.endsServer]
  rw [targetOf, String.toList_append, o.trimBase_base, h]
  simp only [afterScheme_address, hserver, String.toList_ofList]

end Origin

/-! ## Queries -/

namespace Http

/-- Whether a character means something in a query. -/
def isFormMark (c : Char) : Bool := c = '#' || c = '&' || c = '+' || c = '%'

theorem percentDecode?_plain {cs : List Char} (h : '%' ∉ cs) :
    percentDecode? cs = some (String.ofList cs) := by
  rw [percentDecode?, if_neg]
  rwa [List.contains_iff_mem]

theorem formText?_plain {cs : List Char} (h : ∀ ch ∈ cs, isFormMark ch = false) :
    formText? cs = some (String.ofList cs) := by
  have hplus : (cs.map fun ch => if ch = '+' then ' ' else ch) = cs := by
    refine (List.map_congr_left fun ch hch => ?_).trans (List.map_id cs)
    rw [if_neg, id]
    rintro rfl
    cases h '+' hch
  rw [formText?, hplus, percentDecode?_plain]
  intro hmem
  cases h '%' hmem

theorem formField_plain {name value : List Char} (hname : '=' ∉ name)
    (h : ∀ ch ∈ name ++ '=' :: value, isFormMark ch = false) :
    formField (name ++ '=' :: value) = (some (String.ofList name), some (String.ofList value)) := by
  have hbefore : ∀ ch ∈ name, decide (ch ≠ '=') = true := by
    intro ch hch
    rw [decide_eq_true_eq]
    rintro rfl
    exact hname hch
  have hnameText := formText?_plain fun ch hch => h ch (List.mem_append_left _ hch)
  have hvalueText := formText?_plain fun ch hch =>
    h ch (List.mem_append_right name (List.mem_cons_of_mem '=' hch))
  rw [formField, List.takeWhile_append_of_pos hbefore, List.dropWhile_append_of_pos hbefore]
  simp [hnameText, hvalueText]

end Http

/-! ## Paths -/

theorem Uuid.isPlainPart_text (u : Uuid) : Http.isPlainPart u.text.toList := by
  rw [text, String.toList_ofList, Http.isPlainPart_iff]
  constructor
  · intro hnil
    have hlength := u.length_chars
    rw [hnil] at hlength
    cases hlength
  · intro c hc
    rcases mem_grouped hc with rfl | ⟨d, rfl⟩
    · rfl
    · clear hc
      decide +revert

theorem PaymentMethod.isPlainPart_name (m : PaymentMethod) : Http.isPlainPart m.name.toList := by
  cases m <;> decide

namespace Call

/-- The route that the call takes. -/
def route : Call → Http.Route
  | .health => .health
  | .wallet user => .wallet user.text.toList
  | .balance user => .balance user.text.toList
  | .deposit user _ _ => .deposit user.text.toList
  | .withdraw user _ _ => .withdraw user.text.toList
  | .history user _ _ => .history user.text.toList
  | .payments user _ _ => .userPayments user.text.toList
  | .requestPayment .. => .payments
  | .payment id => .payment id.text.toList
  | .checkout id => .checkout id.text.toList
  | .refund id => .refund id.text.toList
  | .sendVerdict provider _ => .webhook provider.name.toList

/-- The fields of a page query. -/
def pageFields (limit offset : Int) : List (List Char) :=
  ["limit".toList ++ '=' :: Numeral.signed limit, "offset".toList ++ '=' :: Numeral.signed offset]

/-- The query of the call, which is empty if it has none. -/
def query : Call → List Char
  | .history _ limit offset | .payments _ limit offset => ['&'].intercalate (pageFields limit offset)
  | _ => []

/-- What follows the path of the call. -/
def suffix (c : Call) : List Char := if c.query = [] then [] else '?' :: c.query

variable (c : Call)

theorem isPlainPart_of_mem_names : ∀ name ∈ c.route.names, Http.isPlainPart name := by
  cases c
  case health | requestPayment => exact fun _ h => absurd h List.not_mem_nil
  case sendVerdict provider _ => exact List.forall_mem_singleton.2 provider.isPlainPart_name
  case payment id | checkout id | refund id => exact List.forall_mem_singleton.2 id.uuid.isPlainPart_text
  case wallet user | balance user => exact List.forall_mem_singleton.2 user.uuid.isPlainPart_text
  case deposit user _ _ | withdraw user _ _ | history user _ _ | payments user _ _ =>
    exact List.forall_mem_singleton.2 user.uuid.isPlainPart_text

theorem toList_path : c.path.toList = c.route.path ++ c.suffix := by
  cases c
  all_goals
    simp [path, userPath, paymentPath, pageQuery, route, Http.Route.path, Http.Route.parts, suffix, query,
      pageFields, Numeral.ofInt]

theorem isFormMark_of_mem_signed {n : Int} {ch : Char} (h : ch ∈ Numeral.signed n) :
    Http.isFormMark ch = false := by
  rw [Bool.eq_false_iff]
  intro hmark
  simp only [Http.isFormMark, Bool.or_eq_true, decide_eq_true_eq] at hmark
  rcases hmark with ((rfl | rfl) | rfl) | rfl <;>
    rcases Numeral.mem_signed h with hdigit | hminus <;> contradiction

theorem isFormMark_of_mem_pageFields (limit offset : Int) {field : List Char}
    (h : field ∈ pageFields limit offset) : ∀ ch ∈ field, Http.isFormMark ch = false := by
  have hjoin {name : List Char} (hname : name.any Http.isFormMark = false) (n : Int) :
      ∀ ch ∈ name ++ '=' :: Numeral.signed n, Http.isFormMark ch = false := by
    intro ch hch
    rcases List.mem_append.1 hch with hch | hch
    · exact Bool.eq_false_iff.2 (List.any_eq_false.1 hname ch hch)
    · rcases List.mem_cons.1 hch with rfl | hch
      · rfl
      · exact isFormMark_of_mem_signed hch
  rcases List.mem_cons.1 h with rfl | h
  · exact hjoin (by decide) limit
  · obtain rfl := List.mem_singleton.1 h
    exact hjoin (by decide) offset

theorem hash_not_mem_query : '#' ∉ c.query := by
  have hjoin {first second : List Char} (h₁ : '#' ∉ first) (h₂ : '#' ∉ second) :
      '#' ∉ ['&'].intercalate [first, second] := by
    simp [h₁, h₂]
  have hpage (limit offset : Int) : '#' ∉ ['&'].intercalate (pageFields limit offset) := by
    have hfield {field : List Char} (h : field ∈ pageFields limit offset) : '#' ∉ field := fun hmem =>
      Bool.noConfusion (isFormMark_of_mem_pageFields limit offset h '#' hmem)
    exact hjoin (hfield List.mem_cons_self) (hfield (List.mem_cons_of_mem _ List.mem_cons_self))
  cases c
  case history _ limit offset => exact hpage limit offset
  case payments _ limit offset => exact hpage limit offset
  all_goals exact List.not_mem_nil

variable (o : Origin) (slashes : Nat)

theorem relativeTarget_request :
    (c.request (o.base slashes)).relativeTarget = c.route.path ++ c.suffix := by
  obtain ⟨cs, hcs⟩ := c.route.path_eq_cons
  have hpath : c.path.toList = '/' :: (cs ++ c.suffix) := by rw [toList_path, hcs, List.cons_append]
  have htarget : (c.request (o.base slashes)).target.toList = '/' :: (cs ++ c.suffix) := by
    rw [request, o.targetOf_base slashes hpath, hpath]
  rw [Http.Request.relativeTarget, htarget, hcs]
  rfl

theorem mem_path {ch : Char} (h : ch ∈ c.route.path) : (ch ≠ '?' && ch ≠ '#') = true := by
  rcases Http.Route.isMark_of_mem_path c.isPlainPart_of_mem_names h with rfl | hmark
  · rfl
  · simp_all [Http.isMark]

theorem path_request : (c.request (o.base slashes)).path = c.route.path := by
  rw [Http.Request.path, relativeTarget_request, Http.Uri.pathOf,
    List.takeWhile_append_of_pos fun _ => c.mem_path, suffix]
  split_ifs <;> simp

theorem query_request : (c.request (o.base slashes)).query = c.query := by
  rw [Http.Request.query, relativeTarget_request, Http.Uri.queryOf,
    List.dropWhile_append_of_pos fun _ => c.mem_path, suffix]
  split_ifs with hquery
  · simp [hquery]
  · have hmark : ∀ ch ∈ c.query, decide (ch ≠ '#') = true := by
      intro ch hch
      rw [decide_eq_true_eq]
      rintro rfl
      exact c.hash_not_mem_query hch
    have hwhole : (c.query ++ []).takeWhile (fun ch => decide (ch ≠ '#')) = c.query ++ [] :=
      List.takeWhile_append_of_pos hmark
    simpa using hwhole

theorem pageQuery?_pageFields {limit offset : Int} (hlimit : Numeral.isWord limit)
    (hoffset : Numeral.isWord offset) :
    Http.pageQuery? (['&'].intercalate (pageFields limit offset)) = some ⟨some limit, some offset⟩ := by
  have hsplit :
      Http.splitAt '&' (['&'].intercalate (pageFields limit offset)) = pageFields limit offset := by
    rw [Http.splitAt_eq_splitOn, List.splitOn_intercalate]
    · intro field hfield hmem
      cases isFormMark_of_mem_pageFields limit offset hfield '&' hmem
    · exact List.cons_ne_nil _ _
  have hfields : Http.formFields (['&'].intercalate (pageFields limit offset)) =
      [(some "limit", some (String.ofList (Numeral.signed limit))),
        (some "offset", some (String.ofList (Numeral.signed offset)))] := by
    have hfirst := Http.formField_plain (by decide)
      (isFormMark_of_mem_pageFields limit offset List.mem_cons_self)
    have hsecond := Http.formField_plain (by decide)
      (isFormMark_of_mem_pageFields limit offset (List.mem_cons_of_mem _ List.mem_cons_self))
    rw [Http.formFields, hsplit]
    simpa [pageFields] using And.intro hfirst hsecond
  simp [Http.pageQuery?, hfields, Http.formNumber?, Numeral.word?_signed hlimit,
    Numeral.word?_signed hoffset, bind]

/-! ## What a request is resolved to -/

/-- The operation that the call stands for. A wallet gives no verdicts. -/
def operation? : Call → Option Operation
  | .health => none
  | .wallet user => some (.wallet user)
  | .balance user => some (.balance user)
  | .deposit user amount description =>
    some (.deposit user amount (description.getD "Wallet deposit"))
  | .withdraw user amount description =>
    some (.withdraw user amount (description.getD "Wallet withdrawal"))
  | .history user limit offset => some (.history user (.of limit offset))
  | .payments user limit offset => some (.payments user (.of limit offset))
  | .requestPayment user amount method booking => some (.requestPayment user amount method booking)
  | .payment id => some (.payment id)
  | .checkout id => some (.checkout id)
  | .refund id => some (.refundPayment id)
  | .sendVerdict provider verdict => if provider.isExternal then some (.applyVerdict verdict) else none

/-- Whether every integer that is handed to the call is one of 64 bits. -/
def HasWords : Call → Prop
  | .deposit _ amount _ | .withdraw _ amount _ | .requestPayment _ amount _ _ => Numeral.isWord amount
  | .history _ limit offset | .payments _ limit offset => Numeral.isWord limit ∧ Numeral.isWord offset
  | _ => True

theorem readPart_plain {s : String} (h : Http.isPlainPart s.toList) : Http.readPart s.toList = .ok s := by
  have hpercent : '%' ∉ s.toList := by
    intro hmem
    cases (Http.isPlainPart_iff.1 h).2 '%' hmem
  rw [Http.readPart, Http.percentDecode?_plain hpercent, String.ofList_toList]

@[simp] theorem readPart_user (user : UserId) : Http.readPart user.text.toList = .ok user.text :=
  readPart_plain user.uuid.isPlainPart_text

@[simp] theorem readUser_text (user : UserId) : Http.readUser user.text = .ok user := by
  rw [Http.readUser, UserId.ofText?_text]

@[simp] theorem readPart_payment (id : PaymentId) : Http.readPart id.text.toList = .ok id.text :=
  readPart_plain id.uuid.isPlainPart_text

@[simp] theorem readPayment_text (id : PaymentId) : Http.readPayment id.text = .ok id := by
  rw [Http.readPayment, PaymentId.ofText?_text]

theorem readProvider_name (provider : PaymentMethod) :
    Http.readProvider provider.name =
      if provider.isExternal then .ok ()
      else .error (Http.refusal (.notFound ("Unknown gateway " ++ provider.name))) := by
  rw [Http.readProvider, PaymentMethod.ofName?_name]
  rfl

theorem readPage_request {r : Http.Request} {limit offset : Int} (hlimit : Numeral.isWord limit)
    (hoffset : Numeral.isWord offset) (h : r.query = ['&'].intercalate (pageFields limit offset)) :
    r.readPage = .ok (.of limit offset) := by
  rw [Http.Request.readPage, h, pageQuery?_pageFields hlimit hoffset]
  rfl

theorem readBody_request {base : String} {α : Type} [Wire α] {a : α} (h : c.body? = some (Wire.write a))
    (ha : Wire.RoundTrips a) (hsize : (c.request base).body.utf8ByteSize ≤ Http.bodyLimit) :
    (c.request base).readBody α = .ok a := by
  have hjson : Http.isJsonMediaType "application/json" := by decide
  have htype : (c.request base).contentType = some "application/json" := by
    rw [request, h, Option.map_some]
  have hbody : (c.request base).body = Wire.encode a := by
    rw [request, h]
    rfl
  rw [hbody] at hsize
  simp [Http.Request.readBody, htype, hjson, hbody, Nat.not_lt.2 hsize, ha.decode_encode]

/-- The server takes the request of a call for the operation that the call stands for. -/
theorem resolve_request (hc : c ≠ .health) (hwords : c.HasWords)
    (hsize : (c.request (o.base slashes)).body.utf8ByteSize ≤ Http.bodyLimit) :
    (c.request (o.base slashes)).resolve =
      match c.operation? with
      | some operation => .ok operation
      | none => .error (Http.refusal (.notFound "Unknown gateway wallet")) := by
  have hroute := Http.Route.ofPath?_path c.isPlainPart_of_mem_names
  have haccepts : c.route.accepts (c.request (o.base slashes)).method = true := by
    cases c <;> rfl
  have hquery := c.query_request o slashes
  rw [Http.Request.resolve, path_request, hroute]
  simp only [haccepts, if_true]
  cases c
  case health => exact absurd rfl hc
  case wallet | balance | payment | checkout | refund =>
    simp [route, Http.Route.resolve, operation?, bind, Except.bind, pure, Except.pure]
  case history user limit offset | payments user limit offset =>
    have hpage := readPage_request hwords.1 hwords.2 hquery
    simp [route, Http.Route.resolve, operation?, hpage, bind, Except.bind, pure, Except.pure]
  case deposit user amount description =>
    have hbody := readBody_request (.deposit user amount description) rfl
      (DepositRequest.kept (r := ⟨amount, description⟩) hwords).roundTrips hsize
    simp [route, Http.Route.resolve, operation?, hbody, bind, Except.bind, pure, Except.pure]
  case withdraw user amount description =>
    have hbody := readBody_request (.withdraw user amount description) rfl
      (WithdrawRequest.kept (r := ⟨amount, description⟩) hwords).roundTrips hsize
    simp [route, Http.Route.resolve, operation?, hbody, bind, Except.bind, pure, Except.pure]
  case requestPayment user amount method booking =>
    have hbody := readBody_request (.requestPayment user amount method booking) rfl
      (PaymentRequest.kept (r := ⟨user, amount, method, booking⟩) hwords).roundTrips hsize
    simp [route, Http.Route.resolve, operation?, hbody, bind, Except.bind, pure, Except.pure]
  case sendVerdict provider verdict =>
    have hpart := readPart_plain provider.isPlainPart_name
    have hbody := readBody_request (.sendVerdict provider verdict) rfl verdict.kept.roundTrips hsize
    simp [route, Http.Route.resolve, operation?, hpart, hbody, readProvider_name, bind, Except.bind, pure,
      Except.pure]
    cases provider <;> rfl

end Call
end Purse
