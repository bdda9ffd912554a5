import DHGateway.Message.Parse

/-!
# The public queue

`client_manage::start_public_queue`: messages of the public queue are handled one at a time until a
sign-in moves the gateway to the business queue. Each message writes into the names of the
business queue, whatever its type is.
-/

namespace DHGateway

/-- The calls that handling a message of the public queue makes; `connet_business` uses the names
there are. -/
inductive PublicCall where
  | sendPublicQueue
  | connetBusiness (names : DynamicNames)

/-- The loop of `start_public_queue`: the flag it runs under, the names of the business queue and
the calls so far, each with the message that was handled. -/
structure PublicQueue where
  whileFlag : Bool
  names : DynamicNames
  calls : List (Document × PublicCall)

/-- `data` of a message. -/
def signData (doc : Document) : Json :=
  ((doc.getD .null).objectMember "data").getD .null

/-- A message of the type `GATEWAY_SIGN_IN`. -/
def IsSignIn (doc : Document) : Prop :=
  (doc.getD .null).stringMember "msgType" = some "GATEWAY_SIGN_IN"

instance (doc : Document) : Decidable (IsSignIn doc) := by unfold IsSignIn; infer_instance

/-- A sign-in that is accepted and itself carries the names. -/
structure Accepts (doc : Document) (names : DynamicNames) : Prop where
  signIn : IsSignIn doc
  code : (doc.getD .null).intMember "code" = some 0
  queuename : (signData doc).stringMember "mqGetQueue" = some names.queuename
  routekey : (signData doc).stringMember "mqSetQueue" = some names.routekey
  exchange : (signData doc).stringMember "mqExchange" = some names.exchange

namespace PublicQueue

def start (names : DynamicNames) : PublicQueue :=
  ⟨true, names, []⟩

/-- The body of the loop over the received messages. -/
def handle (s : PublicQueue) (doc : Document) : PublicQueue :=
  let (_, msgType, names) := parsGatewaySign doc "" s.names
  let s := { s with names := names }
  if msgType = "GATEWAY_RE_SIGN_IN" then { s with calls := s.calls ++ [(doc, .sendPublicQueue)] }
  else if msgType = "GATEWAY_SIGN_IN" then
    { s with whileFlag := false, calls := s.calls ++ [(doc, .connetBusiness names)] }
  else s

/-- The loop, for the messages that `Consumer` gets one by one; with the flag cleared the others
stay in the queue. -/
def startPublicQueue : PublicQueue → List Document → PublicQueue
  | s, [] => s
  | s, doc :: docs => if s.whileFlag then startPublicQueue (s.handle doc) docs else s

/-- The gateway was connected to the business queue only for an accepted sign-in, and the names in
use are those of that message. -/
def MovedOnAccepted (s : PublicQueue) : Prop :=
  ∀ doc names, (doc, .connetBusiness names) ∈ s.calls → Accepts doc names ∧ s.names = names

def Waiting (s : PublicQueue) : Prop :=
  s.whileFlag = true ∧ ∀ doc names, (doc, .connetBusiness names) ∉ s.calls

lemma waiting_start (names : DynamicNames) : (start names).Waiting :=
  ⟨rfl, fun _ _ => List.not_mem_nil⟩

lemma parsGatewaySign_msgType (doc : Document) (names : DynamicNames) :
    (parsGatewaySign doc "" names).2.1 = ((doc.getD .null).stringMember "msgType").getD "" := by
  rw [parsGatewaySign]
  generalize doc.getD .null = d
  cases d <;> rfl

lemma parsGatewaySign_signIn {doc : Document} (h : IsSignIn doc) (names : DynamicNames) :
    (parsGatewaySign doc "" names).2 = ("GATEWAY_SIGN_IN",
      { exchange := ((signData doc).stringMember "mqExchange").getD names.exchange
        queuename := ((signData doc).stringMember "mqGetQueue").getD names.queuename
        routekey := ((signData doc).stringMember "mqSetQueue").getD names.routekey }) := by
  obtain ⟨ms, rfl⟩ := exists_obj_of_stringMember h
  have htype : (Json.obj ms).stringMember "msgType" = some "GATEWAY_SIGN_IN" := h
  show (((Json.obj ms).stringMember "msgType").getD "", _) = _
  rw [htype]
  rfl

lemma handle_other {s : PublicQueue} {doc : Document} (h : ¬ IsSignIn doc) (hs : s.Waiting) :
    (s.handle doc).Waiting := by
  have htype : (parsGatewaySign doc "" s.names).2.1 ≠ "GATEWAY_SIGN_IN" := by
    rw [parsGatewaySign_msgType]
    -- a message without a type is read as one of the empty type
    cases hm : (doc.getD .null).stringMember "msgType" with
    | none =>
      show "" ≠ "GATEWAY_SIGN_IN"
      decide
    | some t =>
      rintro rfl
      exact h hm
  rw [handle]
  generalize parsGatewaySign doc "" s.names = r at htype ⊢
  obtain ⟨_, msgType, names⟩ := r
  dsimp only at htype ⊢
  rw [if_neg htype]
  split
  · refine ⟨hs.1, fun doc' names' hmem => ?_⟩
    rcases List.mem_append.mp hmem with hmem | hmem
    · exact hs.2 doc' names' hmem
    · exact nomatch List.mem_singleton.mp hmem
  · exact hs

lemma handle_signIn (s : PublicQueue) {doc : Document} (h : IsSignIn doc) :
    s.handle doc = ⟨false, (parsGatewaySign doc "" s.names).2.2,
      s.calls ++ [(doc, .connetBusiness (parsGatewaySign doc "" s.names).2.2)]⟩ := by
  have htype := congrArg Prod.fst (parsGatewaySign_signIn h s.names)
  rw [handle]
  generalize parsGatewaySign doc "" s.names = r at htype ⊢
  obtain ⟨_, msgType, names⟩ := r
  dsimp only at htype ⊢
  rw [htype]
  rfl

lemma startPublicQueue_of_done {s : PublicQueue} (h : s.whileFlag = false)
    (docs : List Document) : startPublicQueue s docs = s := by
  cases docs with
  | nil => rfl
  | cons doc docs => rw [startPublicQueue, h, if_neg Bool.false_ne_true]

/-- The sign-in that ends the loop was accepted and brought the names, just if it says so. -/
lemma movedOnAccepted_signIn {s : PublicQueue} {doc : Document} (h : IsSignIn doc)
    (hs : s.Waiting) : (s.handle doc).MovedOnAccepted ↔ ∃ names, Accepts doc names := by
  rw [handle_signIn s h]
  constructor
  · intro hmoved
    exact ⟨_, (hmoved doc _ (List.mem_append_right _ List.mem_cons_self)).1⟩
  · rintro ⟨names, hacc⟩ doc' names' hmem
    have hnames : (parsGatewaySign doc "" s.names).2.2 = names := by
      rw [parsGatewaySign_signIn h, hacc.queuename, hacc.routekey, hacc.exchange]
      rfl
    rcases List.mem_append.mp hmem with hmem | hmem
    · exact absurd hmem (hs.2 doc' names')
    · rw [hnames] at hmem ⊢
      cases List.mem_singleton.mp hmem
      exact ⟨hacc, rfl⟩

/-- The gateway moves to the business queue as an accepted sign-in tells it, exactly if the first
sign-in it receives is accepted and carries all three names. -/
theorem movedOnAccepted_iff (names : DynamicNames) (docs : List Document) :
    (startPublicQueue (start names) docs).MovedOnAccepted ↔
      ∀ doc, docs.find? (fun doc => IsSignIn doc) = some doc → ∃ names, Accepts doc names := by
  suffices h : ∀ s : PublicQueue, s.Waiting → ((startPublicQueue s docs).MovedOnAccepted ↔
      ∀ doc, docs.find? (fun doc => IsSignIn doc) = some doc → ∃ names, Accepts doc names) from
    h _ (waiting_start names)
  induction docs with
  | nil =>
    intro s hs
    apply iff_of_true
    · exact fun doc names hmem => absurd hmem (hs.2 doc names)
    · exact fun doc h => nomatch h
  | cons doc docs ih =>
    intro s hs
    rw [startPublicQueue, hs.1, if_pos rfl]
    -- the first sign-in ends the loop, and decides
    by_cases hsign : IsSignIn doc
    · have hdone : (s.handle doc).whileFlag = false := by rw [handle_signIn s hsign]
      rw [startPublicQueue_of_done hdone, movedOnAccepted_signIn hsign hs,
        List.find?_cons_of_pos (by simpa using hsign)]
      constructor
      · rintro hacc doc' ⟨⟩
        exact hacc
      · exact fun h => h doc rfl
    · rw [ih _ (handle_other hsign hs), List.find?_cons_of_neg (by simpa using hsign)]

def refusedSignIn : Document :=
  some (.obj [("serialNum", .str "29fc51254c0c4809a9f4851f994111a2"),
    ("msgType", .str "GATEWAY_SIGN_IN"), ("msgId", .str "h_2"), ("code", .num 1)])

/-- A sign-in that is refused moves the gateway to a business queue without names. -/
theorem moved_on_refused :
    (startPublicQueue (start ⟨"", "", ""⟩) [refusedSignIn]).calls =
        [(refusedSignIn, .connetBusiness ⟨"", "", ""⟩)] ∧
      ¬ (startPublicQueue (start ⟨"", "", ""⟩) [refusedSignIn]).MovedOnAccepted := by
  refine ⟨rfl, fun h => ?_⟩
  have hcode := (h refusedSignIn ⟨"", "", ""⟩ List.mem_cons_self).1.code
  exact absurd hcode (by decide)

end PublicQueue

end DHGateway
