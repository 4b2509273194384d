import Eudiplo.Auth.Offers
import Eudiplo.Concurrency.Alone
import Eudiplo.Shared.Base64
import Eudiplo.Verifier.RedirectUri

/-!
# Client credentials in a header and in a body

`AuthService.getOAuth2Token` from the request on.  The header is cut at colons and its parts go
through `decodeURI`, while they were form-encoded: `decodeURI` leaves the escapes of eleven
characters (`reserved`) and plus signs as they are.  So a header stands for the credentials it
encodes exactly if none of these is in it (`agree_iff`, `faithful_iff`).
-/

namespace Eudiplo

open Concurrency Prog ResourceRoutes RedirectUri Storage

namespace ClientCredentials

/-! ## Texts with escapes -/

inductive Piece where
  | literal (c : Char)
  | escape (high low : Char) (byte : UInt8)

def pieces : Text → Option (List Piece)
  | [] => some []
  | c :: rest =>
    if c = '%' then
      match rest with
      | high :: low :: rest => do
        let h ← hexDigit? high
        let l ← hexDigit? low
        let tail ← pieces rest
        return .escape high low (h * 16 + l) :: tail
      | _ => none
    else do
      let tail ← pieces rest
      return .literal c :: tail

def readPieces (bytesOf : Piece → List UInt8) (text : Text) : Option String := do
  let read ← pieces text
  String.fromUTF8? ⟨(read.flatMap bytesOf).toArray⟩

/-- The characters whose escapes `decodeURI` keeps. -/
def reserved : List Char := ";/?:@&=+$,#".toList

def isReservedByte (byte : UInt8) : Bool :=
  decide (byte.toNat < 128) && reserved.contains (Char.ofNat byte.toNat)

/-- What a piece stands for in `decodeURI`. -/
def uriBytes : Piece → List UInt8
  | .literal c => String.utf8EncodeChar c
  | .escape high low byte =>
    if isReservedByte byte then
      String.utf8EncodeChar '%' ++ String.utf8EncodeChar high ++ String.utf8EncodeChar low
    else [byte]

def decodeURI (text : Text) : Option String := readPieces uriBytes text

def formBytes : Piece → List UInt8
  | .literal c => if c = '+' then [0x20] else String.utf8EncodeChar c
  | .escape _ _ byte => [byte]

def formDecode (text : Text) : Option String := readPieces formBytes text

def isFormChar (c : Char) : Bool := c.isAlphanum || "*-._".toList.contains c

def formEncodeChar (c : Char) : Text :=
  if isFormChar c then [c] else if c = ' ' then ['+']
  else (String.utf8EncodeChar c).flatMap escapeByte

/-- `application/x-www-form-urlencoded`. -/
def formEncode (text : String) : Text := text.toList.flatMap formEncodeChar

/-! ## Requests -/

/-- `Buffer`: it reads back the base64 of a text; of other texts it reads something. -/
structure Base64Reader where
  decode : String → String
  decode_encode : ∀ text : String,
    decode (String.ofList (Base64.encode text.toUTF8.data.toList)) = text

/-- A request of a token: the `Authorization` header, and members of the body. -/
structure TokenRequest where
  authorization : Option String := none
  grant_type : Option String := none
  client_id : Option String := none
  client_secret : Option String := none

def headerText (reader : Base64Reader) (header : String) : Option String :=
  if "Basic ".toList.isPrefixOf header.toList then
    some (reader.decode (String.ofList (header.toList.drop 6)))
  else none

/-- `credentials.split(":")` and `decodeURI` of the first two parts; `decodeURI(undefined)` is
the text `undefined`. -/
def readCredentials (text : String) : Option (String × String) := do
  let parts := text.toList.splitOn ':'
  let id ← decodeURI (parts.headD [])
  let secret ← parts[1]?.elim (some "undefined") decodeURI
  return (id, secret)

def TokenRequest.credentials (reader : Base64Reader) (r : TokenRequest) :
    Except AuthError (String × String) :=
  match r.authorization.bind (headerText reader) with
  | some text =>
    match readCredentials text with
    | some pair => .ok pair
    | none => .error (.other "Invalid Authorization header format")
  | none => .ok (r.client_id.getD "", r.client_secret.getD "")

/-- **`getOAuth2Token`**, from the request on. -/
def tokenRequest (reader : Base64Reader) (w : OfferWorld) (r : TokenRequest) :
    OfferProg InternalTokenPayload := do
  ensure (!w.auth.oidc) (.other ("OAuth2 token endpoint is not available when using external " ++
    "OIDC provider. Use your external OIDC provider for authentication."))
  ensure (orElse r.grant_type (some "client_credentials") == some "client_credentials")
    (.other "Only client_credentials grant type is supported")
  let credentials ← ofExcept (r.credentials reader)
  getOAuth2Token w credentials.1 credentials.2

def Authenticates (reader : Base64Reader) (w : OfferWorld) (s : OfferStore) (r : TokenRequest) :
    Prop :=
  ∃ payload, AnswersAlone (OfferOp.answer w) (tokenRequest reader w r) s payload

/-! ## Credentials -/

/-- The characters of `clientIdSchema`. -/
def isIdChar (c : Char) : Bool := c.isAlphanum || "._:-".toList.contains c

/-- **The credentials of a client**, with an id that the schema accepts. -/
structure Credentials where
  clientId : String
  secret : String
  accepted : ∀ c ∈ clientId.toList, isIdChar c = true
  clientId_ne : clientId ≠ ""
  secret_ne : secret ≠ ""

def Credentials.text (c : Credentials) : String :=
  String.ofList (formEncode c.clientId ++ ':' :: formEncode c.secret)

def Credentials.header (c : Credentials) : String :=
  "Basic " ++ String.ofList (Base64.encode c.text.toUTF8.data.toList)

/-- **The header is as good as the body**, whatever is stored. -/
def Agree (reader : Base64Reader) (c : Credentials) : Prop :=
  ∀ (w : OfferWorld) (s : OfferStore) (grant_type : Option String),
    Authenticates reader w s { authorization := some c.header, grant_type } ↔
      Authenticates reader w s {
        grant_type, client_id := some c.clientId, client_secret := some c.secret }

def encodedPair (text : String) : Option (String × String) :=
  match text.toList.splitOn ':' with
  | id :: secret :: more => do
    let id ← formDecode id
    let secret ← formDecode ([':'].intercalate (secret :: more))
    return (id, secret)
  | _ => none

/-- **The header authenticates the pair it encodes**, and no other. -/
def Faithful (reader : Base64Reader) (header : String) : Prop :=
  ∀ text pair, headerText reader header = some text → readCredentials text = some pair →
    (∃ (w : OfferWorld) (s : OfferStore) (r : TokenRequest),
      Authenticates reader w s { r with authorization := some header }) →
    encodedPair text = some pair

/-! ## Conditions -/

/-- A character that is lost between the encoding and `decodeURI`. -/
def isLost (c : Char) : Bool := c = ' ' || reserved.contains c

/-- Neither part has a character that is lost. -/
def Credentials.Plain (c : Credentials) : Prop :=
  (∀ a ∈ c.clientId.toList, isLost a = false) ∧ ∀ a ∈ c.secret.toList, isLost a = false

def Piece.plain : Piece → Bool
  | .literal c => c != '+'
  | .escape _ _ byte => !isReservedByte byte

/-- One colon, no plus sign, and no escape of a reserved character. -/
def PlainText (text : String) : Prop :=
  ∃ id secret, text.toList.splitOn ':' = [id, secret] ∧
    ∀ part ∈ [id, secret], ∀ read, pieces part = some read → ∀ piece ∈ read, piece.plain = true

/-- The text is refused, or has an empty part. -/
def Refused (text : String) : Prop :=
  ∀ pair, readCredentials text = some pair → pair.1 = "" ∨ pair.2 = ""

/-! ## Bytes -/

variable {reader : Base64Reader} {c : Credentials} {text part : Text} {read : List Piece}

theorem fromUTF8?_eq_some {bytes : List UInt8} {s : String} :
    String.fromUTF8? ⟨bytes.toArray⟩ = some s ↔
      bytes = s.toList.flatMap String.utf8EncodeChar := by
  have hbytes : s.toByteArray = ⟨(s.toList.flatMap String.utf8EncodeChar).toArray⟩ := by
    rw [← String.utf8Encode_toList, List.utf8Encode]
    exact ByteArray.ext List.data_toByteArray
  constructor
  · intro h
    unfold String.fromUTF8? at h
    split at h
    · have hs : (⟨bytes.toArray⟩ : ByteArray) = s.toByteArray :=
        congrArg String.toByteArray (Option.some.inj h)
      rw [hbytes] at hs
      simpa using congrArg ByteArray.data hs
    · cases h
  · rintro rfl
    rw [← hbytes]
    exact dif_pos s.isValidUTF8

theorem readPieces_eq_some {f : Piece → List UInt8} {s : String} (h : pieces text = some read) :
    readPieces f text = some s ↔ read.flatMap f = s.toList.flatMap String.utf8EncodeChar := by
  unfold readPieces
  rw [h]
  exact fromUTF8?_eq_some

theorem pieces_of_readPieces {f : Piece → List UInt8} {s : String}
    (h : readPieces f text = some s) : ∃ read, pieces text = some read := by
  unfold readPieces at h
  cases hread : pieces text with
  | none =>
    rw [hread] at h
    cases h
  | some read => exact ⟨read, rfl⟩

theorem pieces_literal {a : Char} (h : a ≠ '%') :
    pieces (a :: part) = (pieces part).map (.literal a :: ·) := by
  rw [pieces.eq_def]
  simp only [h, if_false]
  cases pieces part <;> rfl

theorem pieces_append (h : pieces part = some read) (rest : Text) :
    pieces (part ++ rest) = (pieces rest).map (read ++ ·) := by
  induction part using pieces.induct generalizing read with
  | case1 =>
    cases h
    simp
  | case2 high low part ih =>
    rw [pieces, if_pos rfl] at h
    rw [List.cons_append, List.cons_append, List.cons_append, pieces, if_pos rfl]
    obtain ⟨a, ha, h⟩ := Option.bind_eq_some_iff.mp h
    obtain ⟨b, hb, h⟩ := Option.bind_eq_some_iff.mp h
    obtain ⟨tail, htail, h⟩ := Option.bind_eq_some_iff.mp h
    cases h
    simp only [ha, hb, ih htail]
    cases pieces rest <;> rfl
  | case3 part hshort =>
    rw [pieces.eq_def] at h
    simp only [if_true] at h
    cases h
  | case4 c part hc ih =>
    rw [pieces_literal hc] at h
    obtain ⟨tail, htail, rfl⟩ := Option.map_eq_some_iff.mp h
    rw [List.cons_append, pieces_literal hc, ih htail, Option.map_map]
    rfl

theorem utf8EncodeChar_cases (c : Char) :
    (c.toNat < 128 ∧ String.utf8EncodeChar c = [UInt8.ofNat c.toNat]) ∨
      128 ≤ c.toNat ∧ ∀ byte ∈ String.utf8EncodeChar c, 128 ≤ byte.toNat := by
  have hvalid : c.toNat < 0x110000 := by
    obtain h | h := c.valid <;> simp only [Char.toNat] <;> omega
  unfold String.utf8EncodeChar
  simp only [show c.val.toNat = c.toNat from rfl]
  split
  · exact .inl ⟨by omega, rfl⟩
  · refine .inr ⟨by omega, ?_⟩
    split
    · simp
      omega
    · split
      · simp
        omega
      · simp
        omega

theorem uriBytes_formBytes (piece : Piece) :
    (piece.plain = true ∧ uriBytes piece = formBytes piece) ∨
      piece.plain = false ∧ ∃ a as b bs, uriBytes piece = a :: as ∧ formBytes piece = b :: bs ∧
        a ≠ b := by
  cases piece with
  | literal c =>
    by_cases hc : c = '+'
    · subst hc
      exact .inr ⟨rfl, 0x2b, [], 0x20, [], rfl, rfl, by decide⟩
    · exact .inl ⟨by simp [Piece.plain, hc], by simp [uriBytes, formBytes, hc]⟩
  | escape high low byte =>
    by_cases hbyte : isReservedByte byte = true
    · refine .inr ⟨by simp [Piece.plain, hbyte], 0x25, _, byte, [], if_pos hbyte, rfl, ?_⟩
      rintro rfl
      cases hbyte
    · exact .inl ⟨by simp [Piece.plain, hbyte], by simp [uriBytes, formBytes, hbyte]⟩

/-- **The readings of a text agree exactly if all its pieces are plain.** -/
theorem uriBytes_eq_formBytes {rest : List UInt8} :
    read.flatMap uriBytes = read.flatMap formBytes ++ rest ↔
      rest = [] ∧ ∀ piece ∈ read, piece.plain = true := by
  induction read with
  | nil => cases rest <;> simp
  | cons piece read ih =>
    rw [List.flatMap_cons, List.flatMap_cons, List.append_assoc, List.forall_mem_cons]
    obtain ⟨hplain, heq⟩ | ⟨hplain, a, as, b, bs, ha, hb, hne⟩ := uriBytes_formBytes piece
    · rw [heq, List.append_cancel_left_eq, ih]
      simp only [hplain, true_and]
    · rw [ha, hb, List.cons_append, List.cons_append, List.cons.injEq]
      simp only [hne, hplain, false_and, and_false, Bool.false_eq_true]

/-! ## Encoded texts -/

def formPieces (c : Char) : List Piece :=
  if isFormChar c then [.literal c] else if c = ' ' then [.literal '+']
  else (String.utf8EncodeChar c).map fun byte =>
    .escape (hexDigit (byte.toNat / 16)) (hexDigit (byte.toNat % 16)) byte

theorem hexDigit?_hexDigit {n : Nat} (h : n < 16) :
    hexDigit? (hexDigit n) = some (UInt8.ofNat n) := by
  have hall : ∀ n : Fin 16, hexDigit? (hexDigit n) = some (UInt8.ofNat n) := by decide +kernel
  exact hall ⟨n, h⟩

theorem pieces_escapeByte (byte : UInt8) :
    pieces (escapeByte byte) =
      some [.escape (hexDigit (byte.toNat / 16)) (hexDigit (byte.toNat % 16)) byte] := by
  have hlt := byte.toNat_lt
  have hbyte : UInt8.ofNat (byte.toNat / 16) * 16 + UInt8.ofNat (byte.toNat % 16) = byte := by
    rw [← UInt8.toNat_inj]
    simp
    omega
  simp only [escapeByte, pieces, if_true, hexDigit?_hexDigit (show byte.toNat / 16 < 16 by omega),
    hexDigit?_hexDigit (Nat.mod_lt _ (show 0 < 16 by omega)), Option.bind_eq_bind,
    Option.bind_some, hbyte]
  rfl

theorem pieces_formEncodeChar (c : Char) : pieces (formEncodeChar c) = some (formPieces c) := by
  unfold formEncodeChar formPieces
  split
  · rename_i hc
    have hne : c ≠ '%' := by
      rintro rfl
      cases hc
    rw [pieces_literal hne]
    rfl
  · split
    · rfl
    · induction String.utf8EncodeChar c with
      | nil => rfl
      | cons byte bytes ih =>
        rw [List.flatMap_cons, pieces_append (pieces_escapeByte byte), ih]
        rfl

theorem pieces_formEncode (s : String) :
    pieces (formEncode s) = some (s.toList.flatMap formPieces) := by
  unfold formEncode
  induction s.toList with
  | nil => rfl
  | cons c cs ih =>
    rw [List.flatMap_cons, pieces_append (pieces_formEncodeChar c), ih]
    rfl

theorem formBytes_formPieces (c : Char) :
    (formPieces c).flatMap formBytes = String.utf8EncodeChar c := by
  unfold formPieces
  split
  · rename_i hc
    have hne : c ≠ '+' := by
      rintro rfl
      cases hc
    simp [formBytes, hne]
  · split
    · rename_i hc
      subst hc
      rfl
    · simp [List.flatMap_map, formBytes]

theorem plain_formPieces (c : Char) :
    (∀ piece ∈ formPieces c, piece.plain = true) ↔ isLost c = false := by
  have hreserved : reserved.all (fun a => !isFormChar a && a.toNat < 128) = true := rfl
  rw [List.all_eq_true] at hreserved
  unfold formPieces isLost
  split
  · rename_i hc
    have hne : c ≠ '+' ∧ c ≠ ' ' := by
      constructor
      · rintro rfl
        cases hc
      · rintro rfl
        cases hc
    have hnot : c ∉ reserved := fun h => by simpa [hc] using hreserved c h
    simp [Piece.plain, hne, hnot]
  · split
    · rename_i hc
      subst hc
      simp [Piece.plain]
    · rename_i hspace
      simp only [List.forall_mem_map, Piece.plain, isReservedByte, hspace, decide_false,
        Bool.false_or]
      obtain ⟨hlt, hbytes⟩ | ⟨hge, hbytes⟩ := utf8EncodeChar_cases c
      · have htoNat : (UInt8.ofNat c.toNat).toNat = c.toNat := by
          simp
          omega
        simp [hbytes, htoNat, hlt, Char.ofNat_toNat]
      · have hnot : c ∉ reserved := fun h => by
          have := hreserved c h
          simp at this
          omega
        simp only [hnot, List.contains_eq_mem, decide_false, iff_true]
        intro byte hbyte
        simp [Nat.not_lt.mpr (hbytes byte hbyte)]

/-- **`decodeURI` gives back what was encoded** exactly if no character is lost. -/
theorem decodeURI_formEncode (s : String) :
    decodeURI (formEncode s) = some s ↔ ∀ a ∈ s.toList, isLost a = false := by
  have hform : s.toList.flatMap String.utf8EncodeChar =
      (s.toList.flatMap formPieces).flatMap formBytes := by
    rw [List.flatMap_assoc]
    simp only [formBytes_formPieces]
  unfold decodeURI
  rw [readPieces_eq_some (pieces_formEncode s), hform, ← List.append_nil (List.flatMap formBytes _),
    uriBytes_eq_formBytes]
  simp only [List.mem_flatMap, true_and, forall_exists_index, and_imp, ← plain_formPieces]
  exact ⟨fun h a ha piece hp => h piece a ha hp, fun h piece a ha hp => h a ha piece hp⟩

theorem colon_notMem (s : String) : ':' ∉ formEncode s := by
  have hdigits : ∀ n : Fin 16, hexDigit n ≠ ':' := by decide +kernel
  intro h
  obtain ⟨a, -, ha⟩ := List.mem_flatMap.mp h
  unfold formEncodeChar at ha
  split at ha
  · rename_i hform
    rw [← List.mem_singleton.mp ha] at hform
    cases hform
  · split at ha
    · simp at ha
    · obtain ⟨byte, -, hbyte⟩ := List.mem_flatMap.mp ha
      have hlt := byte.toNat_lt
      simp only [escapeByte, List.mem_cons, List.not_mem_nil, or_false] at hbyte
      obtain hpercent | hhigh | hlow := hbyte
      · cases hpercent
      · exact hdigits ⟨_, by omega⟩ hhigh.symm
      · exact hdigits ⟨_, by omega⟩ hlow.symm

/-! ## Headers -/

theorem headerText_header : headerText reader c.header = some c.text := by
  unfold headerText Credentials.header
  rw [String.toList_append, if_pos (by simp)]
  show some (reader.decode (String.ofList (String.toList _))) = _
  rw [String.ofList_toList, reader.decode_encode]

theorem readCredentials_text : readCredentials c.text = do
    let id ← decodeURI (formEncode c.clientId)
    let secret ← decodeURI (formEncode c.secret)
    return (id, secret) := by
  unfold readCredentials Credentials.text
  rw [String.toList_ofList, List.splitOn_append_cons_self_of_not_mem (colon_notMem _),
    List.splitOn_eq_singleton (colon_notMem _)]
  rfl

/-- **The header is read as it was written**, exactly if nothing in it is lost. -/
theorem readCredentials_text_eq :
    readCredentials c.text = some (c.clientId, c.secret) ↔ c.Plain := by
  unfold Credentials.Plain
  rw [readCredentials_text, ← decodeURI_formEncode, ← decodeURI_formEncode]
  cases decodeURI (formEncode c.clientId) <;> cases decodeURI (formEncode c.secret) <;> simp

/-! ## Requests -/

variable {w : OfferWorld} {s : OfferStore} {r : TokenRequest} {id secret : String}

theorem authenticates_iff : Authenticates reader w s r ↔
    w.auth.oidc = false ∧ orElse r.grant_type (some "client_credentials") =
      some "client_credentials" ∧ ∃ pair, r.credentials reader = .ok pair ∧
        ∃ payload, AnswersAlone (OfferOp.answer w) (getOAuth2Token w pair.1 pair.2) s payload := by
  unfold Authenticates tokenRequest
  cases w.auth.oidc <;>
    cases hgrant : orElse r.grant_type (some "client_credentials") == some "client_credentials" <;>
    cases r.credentials reader <;> simp_all [ensure, Prog.ofExcept]

def world : OfferWorld where
  auth := {
    oidc := false
    authClientId := ""
    authClientSecret := ""
    importMode := .disabled
    strictAbort := false
    random _ := ""
    hash _ secret := secret
    kcId _ := ""
    answer _ _ := .error (.other "") }
  getTenant _ _ := .ok ""
  lookup _ := .ok ()
  compare secret hash := secret == hash
  createOffer _ _ _ := .ok ()

def store (id secret : String) : OfferStore where
  auth := {
    clients := .single ⟨id, some secret, some "t", none, [], none, none⟩
    kcClients := .empty
    kcUsers := .empty
    kcRoles := [] }

theorem answersAlone_store {given : String × String} :
    (∃ payload, AnswersAlone (OfferOp.answer world) (getOAuth2Token world given.1 given.2)
      (store id secret) payload) ↔ given.1 ≠ "" ∧ given.2 ≠ "" ∧ given = (id, secret) := by
  obtain ⟨a, b⟩ := given
  unfold getOAuth2Token validateClientCredentials
  by_cases ha : a = ""
  · simp [ha, ensure, world]
  by_cases hb : b = ""
  · simp [hb, ensure, world]
  have hfind : (store id secret).auth.clients.find (selectsClient a .any) =
      if id = a then some ⟨id, some secret, some "t", none, [], none, none⟩ else none := by
    by_cases hid : id = a <;>
      simp [hid, store, Table.find, Table.single, selectsClient,
        TenantFilter.selects]
  simp only [ensure, bind_eq]
  by_cases hid : id = a
  · subst hid
    rw [if_pos rfl] at hfind
    by_cases hs : secret = "" <;> by_cases hbs : b = secret <;>
      simp_all [ofManagement, clientRepo, invoke, Prog.embed, OfferOp.answer, AuthCall.answer,
        ClientCall.answer, getOrFail, world]
  · rw [if_neg hid] at hfind
    simp_all [ofManagement, clientRepo, invoke, Prog.embed, OfferOp.answer, AuthCall.answer,
      ClientCall.answer, getOrFail, world, Ne.symm hid]

theorem credentials_of_text {header text : String} {pair : String × String}
    (hauth : r.authorization = some header) (htext : headerText reader header = some text) :
    r.credentials reader = .ok pair ↔ readCredentials text = some pair := by
  unfold TokenRequest.credentials
  simp only [hauth, Option.bind_some, htext]
  cases readCredentials text <;> simp

theorem exists_authenticates {header text : String} {pair : String × String}
    (htext : headerText reader header = some text) (hread : readCredentials text = some pair) :
    (∃ (w : OfferWorld) (s : OfferStore) (r : TokenRequest),
      Authenticates reader w s { r with authorization := some header }) ↔
      pair.1 ≠ "" ∧ pair.2 ≠ "" := by
  constructor
  · rintro ⟨w, s, r, h⟩
    obtain ⟨-, -, given, hgiven, payload, hpayload⟩ := authenticates_iff.mp h
    rw [credentials_of_text rfl htext, hread] at hgiven
    cases hgiven
    unfold getOAuth2Token at hpayload
    by_contra hne
    have hempty : (truthy (some pair.1) && truthy (some pair.2)) = false := by
      obtain h | h := not_and_or.mp hne <;> simp [not_not.mp h]
    rw [hempty] at hpayload
    cases hoidc : w.auth.oidc <;> simp [hoidc, ensure] at hpayload
  · intro hne
    exact ⟨world, store pair.1 pair.2, {}, authenticates_iff.mpr
      ⟨rfl, rfl, pair, (credentials_of_text rfl htext).mpr hread,
        answersAlone_store.mpr ⟨hne.1, hne.2, rfl⟩⟩⟩

/-! ## Agreement -/

def strictReader : Base64Reader where
  decode text :=
    ((Base64.decode text.toList).bind fun bytes => String.fromUTF8? ⟨bytes.toArray⟩).getD ""
  decode_encode text := by
    have hread : String.fromUTF8? ⟨text.toUTF8.data.toList.toArray⟩ = some text :=
      dif_pos text.isValidUTF8
    rw [String.toList_ofList, Base64.decode_encode, Option.bind_some, hread]
    rfl

/-- **Header and body agree** exactly if nothing in the credentials is lost. -/
theorem agree_iff : Agree reader c ↔ c.Plain := by
  rw [← readCredentials_text_eq]
  constructor
  · intro h
    have hbody : Authenticates reader world (store c.clientId c.secret) {
        grant_type := none, client_id := some c.clientId, client_secret := some c.secret } :=
      authenticates_iff.mpr ⟨rfl, rfl, _, rfl,
        answersAlone_store.mpr ⟨c.clientId_ne, c.secret_ne, rfl⟩⟩
    obtain ⟨-, -, pair, hpair, hanswer⟩ := authenticates_iff.mp ((h _ _ _).mpr hbody)
    rw [credentials_of_text rfl headerText_header] at hpair
    rw [hpair, (answersAlone_store.mp hanswer).2.2]
  · intro h w s grant_type
    have hsame {pair : String × String} : TokenRequest.credentials reader
        { authorization := some c.header, grant_type } = .ok pair ↔
          (Except.ok (c.clientId, c.secret) : Except AuthError _) = .ok pair := by
      rw [credentials_of_text rfl headerText_header, h]
      simp
    simp only [authenticates_iff, hsame]
    rfl

theorem formDecode_eq {value : String} (h : decodeURI part = some value) :
    formDecode part = some value ↔
      ∀ read, pieces part = some read → ∀ piece ∈ read, piece.plain = true := by
  obtain ⟨read, hread⟩ := pieces_of_readPieces h
  unfold decodeURI at h
  unfold formDecode
  rw [readPieces_eq_some hread] at h ⊢
  rw [← h, eq_comm, ← List.append_nil (List.flatMap formBytes _), uriBytes_eq_formBytes]
  simp [hread]

theorem formDecode_ne {value : String} (rest : Text) (h : decodeURI part = some value) :
    formDecode (part ++ ':' :: rest) ≠ some value := by
  obtain ⟨read, hread⟩ := pieces_of_readPieces h
  unfold decodeURI at h
  rw [readPieces_eq_some hread] at h
  intro hform
  obtain ⟨all, hall⟩ := pieces_of_readPieces hform
  have hmore := hall
  rw [pieces_append hread, pieces_literal (by decide), Option.map_map,
    Option.map_eq_some_iff] at hmore
  obtain ⟨tail, -, rfl⟩ := hmore
  unfold formDecode at hform
  rw [readPieces_eq_some hall, ← h, Function.comp_apply, List.flatMap_append, eq_comm,
    uriBytes_eq_formBytes] at hform
  cases hform.1

/-- **The pair that is read is the encoded one**, exactly for plain texts. -/
theorem encodedPair_eq {text : String} {pair : String × String}
    (h : readCredentials text = some pair) : encodedPair text = some pair ↔ PlainText text := by
  unfold readCredentials at h
  unfold encodedPair PlainText
  generalize text.toList.splitOn ':' = parts at h ⊢
  obtain ⟨id, hid, h⟩ := Option.bind_eq_some_iff.mp h
  obtain ⟨secret, hsecret, h⟩ := Option.bind_eq_some_iff.mp h
  cases h
  rcases parts with _ | ⟨first, _ | ⟨second, more⟩⟩
  · simp
  · simp
  replace hid : decodeURI first = some id := hid
  replace hsecret : decodeURI second = some secret := hsecret
  have hpair (part : Text) : (do
      let id ← formDecode first
      let secret ← formDecode part
      return (id, secret)) = some (id, secret) ↔
      formDecode first = some id ∧ formDecode part = some secret := by
    cases formDecode first <;> cases formDecode part <;> simp
  dsimp only
  rw [hpair]
  cases more with
  | nil =>
    rw [List.intercalate_singleton, formDecode_eq hid, formDecode_eq hsecret]
    simp
  | cons third more =>
    rw [List.intercalate_cons_cons]
    have hne := formDecode_ne ([':'].intercalate (third :: more)) hsecret
    simp [hne]

/-- **A header is faithful** exactly if it is refused or plain. -/
theorem faithful_iff {header : String} : Faithful reader header ↔
    ∀ text, headerText reader header = some text → Refused text ∨ PlainText text := by
  constructor
  · intro h text htext
    by_contra hnot
    obtain ⟨hrefused, hplain⟩ := not_or.mp hnot
    unfold Refused at hrefused
    push Not at hrefused
    obtain ⟨pair, hread, hne⟩ := hrefused
    exact hplain ((encodedPair_eq hread).mp
      (h text pair htext hread ((exists_authenticates htext hread).mpr hne)))
  · intro h text pair htext hread hauth
    obtain hrefused | hplain := h text htext
    · have hne := (exists_authenticates htext hread).mp hauth
      exact absurd (hrefused pair hread) (not_or.mpr hne)
    · exact (encodedPair_eq hread).mpr hplain

end ClientCredentials

open ClientCredentials

/-- **Where the header of a client is as good as the body**, and which headers authenticate
nothing but the pair they encode. -/
theorem client_credentials_agree (reader : Base64Reader) :
    (∀ c, Agree reader c ↔ c.Plain) ∧
      ∀ header, Faithful reader header ↔
        ∀ text, headerText reader header = some text →
          ClientCredentials.Refused text ∨ PlainText text :=
  ⟨fun _ => agree_iff, fun _ => faithful_iff⟩

/-- A client whose id has a colon: its header gives no token, its body does. -/
theorem not_client_credentials_agree :
    ¬Agree strictReader
      ⟨"shop:1", "secret", List.all_eq_true.mp rfl, by decide, by decide⟩ := by
  rw [agree_iff]
  intro h
  cases h.1 ':' (by decide)

end Eudiplo
