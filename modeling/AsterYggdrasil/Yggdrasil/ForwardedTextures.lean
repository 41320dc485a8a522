import AsterYggdrasil.Interleave.Program
import AsterYggdrasil.Yggdrasil.Entities
import Mathlib

/-!
# Texture URLs of forwarded profiles

A profile that an upstream answered shows textures on the upstream's host.  When texture
forwarding is on, `rewrite_forwarded_texture_urls` replaces their URLs by URLs of this
site that carry a signed ticket with the original, and signs the property again;
`forwarded_texture_url` gets the original back out of a ticket.

Base64, JSON, JWT, SHA-256, the signature and the URL parser are third-party code and
come as parameters.  **`rewrite_faithful`** says what the rewriting changes, and that a
URL it wrote resolves to the original if this is an http or https URL, and to nothing
otherwise.
-/

namespace AsterYggdrasil.Forwarding

open Interleave.Prog (except_bind_ok)

/-! ## JSON -/

/-- `serde_json::Value`; a number is kept as its text, a map as its entries. -/
inductive Json
  | null
  | bool (value : Bool)
  | number (text : String)
  | string (text : String)
  | array (items : List Json)
  | object (entries : List (String × Json))

/-- A mutable reference to the first element that satisfies `p`: the element, with what
stands before it and behind it. -/
def focus {α : Type} (p : α → Bool) : List α → Option (List α × α × List α)
  | [] => none
  | x :: xs =>
      if p x then some ([], x, xs)
      else (focus p xs).map fun found => (x :: found.1, found.2)

/-- `get_mut` of a map. -/
def getMut (key : String) (entries : List (String × Json)) :
    Option (List (String × Json) × (String × Json) × List (String × Json)) :=
  focus (fun entry => entry.1 = key) entries

/-! ## Tickets -/

/-- `ForwardedTextureTicket`: the upstream, the hash in the URL, and the original URL. -/
structure ForwardedTextureTicket where
  s : Int
  h : String
  u : String
  deriving DecidableEq, Repr

/-- The parts of a parsed `Url` that are used: a URL that cannot be a base has no path
segments. -/
structure Url where
  scheme : String
  pathSegments : Option (List String)
  text : String
  deriving DecidableEq, Repr

/-- What both functions take from the configuration and from other crates. -/
structure ForwardEnv where
  publicBaseUrls : List String
  base64Decode : String → Except String (List UInt8)
  parseJson : List UInt8 → Except String Json
  /-- `serde_json::to_vec`, and the base64 text of the bytes. -/
  encodePayload : Json → Except String String
  /-- `sign_texture_property` under the current policy. -/
  signTextureProperty : String → Except String (Option String)
  parseUrl : String → Option Url
  sha256Hex : List UInt8 → String
  encodeTicket : ForwardedTextureTicket → Except String String
  decodeTicket : String → Option ForwardedTextureTicket

/-- `char::is_ascii_hexdigit`. -/
def isAsciiHexdigit (c : Char) : Bool :=
  c.isDigit || ('a' ≤ c && c ≤ 'f') || ('A' ≤ c && c ≤ 'F')

/-- `is_forwarded_texture_hash`. -/
def isForwardedTextureHash (value : String) : Bool :=
  [32, 40, 64].contains value.utf8ByteSize && value.toList.all isAsciiHexdigit

section Functions

variable (env : ForwardEnv)

/-- `forwarded_texture_hash`: the last segment of the path that is a hash, or the hash of
the URL. -/
def forwardedTextureHash (url : String) : String :=
  (((env.parseUrl url).bind Url.pathSegments).bind fun segments =>
    segments.reverse.find? isForwardedTextureHash).getD (env.sha256Hex url.toUTF8.data.toList)

/-- `forwarded_texture_url`. -/
def forwardedTextureUrl (upstreamId : Int) (textureHash ticket : String) : Option String :=
  if !isForwardedTextureHash textureHash then none
  else
    match env.decodeTicket ticket with
    | none => none
    | some ticket =>
        if ticket.s ≠ upstreamId || ticket.h ≠ textureHash then none
        else
          match env.parseUrl ticket.u with
          | some url => if url.scheme = "http" || url.scheme = "https" then some url.text else none
          | none => none

/-! ## Rewriting -/

/-- `trim_end_matches('/')`. -/
def trimEndSlashes (url : String) : String := String.ofList (url.toList.rdropWhile (· = '/'))

/-- The URL that is written. -/
def forwardedUrl (publicBaseUrl : String) (upstreamId : Int) (textureHash ticket : String) :
    String :=
  trimEndSlashes publicBaseUrl ++ "/sessionserver/session/minecraft/forwardedTextures" ++ "/" ++
    toString upstreamId ++ "/" ++ textureHash ++ "/" ++ ticket

/-- The new URL for `originalUrl`. -/
def forwardUrl (publicBaseUrl : String) (upstreamId : Int) (originalUrl : String) :
    Except String String := do
  let textureHash := forwardedTextureHash env originalUrl
  let ticket ← (env.encodeTicket ⟨upstreamId, textureHash, originalUrl⟩).mapError fun error =>
    "failed to sign forwarded texture ticket: " ++ error
  pure (forwardedUrl publicBaseUrl upstreamId textureHash ticket)

/-- One texture of the loop, and whether its URL was rewritten. -/
def rewriteTexture (publicBaseUrl : String) (upstreamId : Int) :
    Json → Except String (Json × Bool)
  | .object entries =>
      match getMut "url" entries with
      | some (before, (key, .string originalUrl), after) => do
          let url ← forwardUrl env publicBaseUrl upstreamId originalUrl
          pure (.object (before ++ (key, .string url) :: after), true)
      | _ => pure (.object entries, false)
  | texture => pure (texture, false)

/-- The loop over the textures, with the count of rewritten URLs. -/
def rewriteTextures (publicBaseUrl : String) (upstreamId : Int) :
    List (String × Json) → Except String (List (String × Json) × Nat)
  | [] => pure ([], 0)
  | (textureType, texture) :: rest => do
      let (texture, rewritten) ← rewriteTexture env publicBaseUrl upstreamId texture
      let (rest, count) ← rewriteTextures publicBaseUrl upstreamId rest
      pure ((textureType, texture) :: rest, if rewritten then count + 1 else count)

/-- The payload of a property. -/
def decodePayload (value : String) : Except String Json := do
  let decoded ← (env.base64Decode value).mapError fun error =>
    "textures property is not valid base64: " ++ error
  (env.parseJson decoded).mapError fun error => "textures property is not valid JSON: " ++ error

/-- The value and signature of a changed payload. -/
def signPayload (payload : Json) : Except String (String × String) := do
  let encoded ← (env.encodePayload payload).mapError fun error =>
    "failed to serialize rewritten textures property: " ++ error
  match ← env.signTextureProperty encoded with
  | none =>
      throw "forwarded texture URL rewrite requires a configured Yggdrasil signature private key"
  | some signature => pure (encoded, signature)

/-- `rewrite_forwarded_texture_urls` on the textures property: nothing, or its new value
and signature with the count. -/
def rewriteProperty (upstreamId : Int) (value : String) :
    Except String (Option (String × String × Nat)) := do
  match ← decodePayload env value with
  | .object entries =>
      match getMut "textures" entries with
      | some (before, (key, .object textures), after) =>
          match env.publicBaseUrls.head? with
          | none => throw "public base URL is required for forwarded texture proxy URLs"
          | some publicBaseUrl => do
              let (textures, count) ← rewriteTextures env publicBaseUrl upstreamId textures
              if count = 0 then pure none
              else do
                let (encoded, signature) ←
                  signPayload env (.object (before ++ (key, .object textures) :: after))
                pure (some (encoded, signature, count))
      | _ => pure none
  | _ => pure none

/-- `rewrite_forwarded_texture_urls`: the result, and the profile as it is left. -/
def rewriteForwardedTextureUrls (upstreamId : Int) (profile : YggdrasilProfile) :
    Except String Nat × YggdrasilProfile :=
  match profile.properties with
  | none => (.ok 0, profile)
  | some properties =>
      match focus (fun property => property.name = "textures") properties with
      | none => (.ok 0, profile)
      | some (before, property, after) =>
          match rewriteProperty env upstreamId property.value with
          | .error error => (.error error, profile)
          | .ok none => (.ok 0, profile)
          | .ok (some (value, signature, count)) =>
              (.ok count, { profile with
                properties := some (before ++ ⟨property.name, value, some signature⟩ :: after) })

end Functions

/-! ## What the parameters are relied on for -/

/-- Decoding inverts encoding, a hash is 64 hexadecimal digits, and a ticket has no slash:
it is three base64url texts with dots between them. -/
structure ForwardEnv.Lawful (env : ForwardEnv) : Prop where
  payload : ∀ payload value, env.encodePayload payload = .ok value →
    decodePayload env value = .ok payload
  ticket : ∀ ticket text, env.encodeTicket ticket = .ok text →
    env.decodeTicket text = some ticket ∧ '/' ∉ text.toList
  hash : ∀ bytes, isForwardedTextureHash (env.sha256Hex bytes) = true

/-- The last three segments of a URL: upstream, hash and ticket. -/
def splitForwardedUrl (url : String) : Option (Int × String × String) :=
  match (url.toList.splitOn '/').reverse with
  | ticket :: hash :: upstreamId :: _ =>
      (String.ofList upstreamId).toInt?.map fun upstreamId =>
        (upstreamId, String.ofList hash, String.ofList ticket)
  | _ => none

/-- What a URL resolves to when its parts are passed to `forwarded_texture_url`. -/
def resolve (env : ForwardEnv) (url : String) : Option String :=
  (splitForwardedUrl url).bind fun (upstreamId, textureHash, ticket) =>
    forwardedTextureUrl env upstreamId textureHash ticket

/-- The text of an http or https URL, normalised. -/
def httpUrl (env : ForwardEnv) (url : String) : Option String :=
  ((env.parseUrl url).filter fun url => url.scheme = "http" || url.scheme = "https").map Url.text

/-- A texture before and after: the same, or its `url`, a text, is another text. -/
def TextureRewritten (R : String → String → Prop) (texture texture' : String × Json) : Prop :=
  texture'.1 = texture.1 ∧ (texture'.2 = texture.2 ∨
    ∃ before after originalUrl url,
      (∀ entry ∈ before, entry.1 ≠ "url") ∧
      texture.2 = .object (before ++ ("url", .string originalUrl) :: after) ∧
      texture'.2 = .object (before ++ ("url", .string url) :: after) ∧ R originalUrl url)

/-- Two payloads that differ in texts under `url` in the `textures` object only. -/
def PayloadRewritten (R : String → String → Prop) (payload payload' : Json) : Prop :=
  ∃ before after textures textures',
    (∀ entry ∈ before, entry.1 ≠ "textures") ∧
    payload = .object (before ++ ("textures", .object textures) :: after) ∧
    payload' = .object (before ++ ("textures", .object textures') :: after) ∧
    List.Forall₂ (TextureRewritten R) textures textures'

/-- Two profiles that differ in the first `textures` property only, with payloads that
differ in URLs only. -/
def ProfileRewritten (env : ForwardEnv) (R : String → String → Prop)
    (profile profile' : YggdrasilProfile) : Prop :=
  ∃ before property after value signature payload payload',
    (∀ p ∈ before, p.name ≠ "textures") ∧ property.name = "textures" ∧
    profile.properties = some (before ++ property :: after) ∧
    profile' = { profile with
      properties := some (before ++ ⟨property.name, value, some signature⟩ :: after) } ∧
    decodePayload env property.value = .ok payload ∧
    decodePayload env value = .ok payload' ∧ PayloadRewritten R payload payload'

/-! ## Splitting -/

section Focus

variable {α : Type} {p : α → Bool}

/-- The first entry that is found splits the list. -/
theorem focus_eq_some {xs before after : List α} {x : α}
    (h : focus p xs = some (before, x, after)) :
    xs = before ++ x :: after ∧ p x = true ∧ ∀ y ∈ before, p y = false := by
  induction xs generalizing before with
  | nil => cases h
  | cons y xs ih =>
      rw [focus] at h
      by_cases hy : p y = true
      · rw [if_pos hy] at h
        obtain ⟨rfl, rfl, rfl⟩ := h
        exact ⟨rfl, hy, fun z hz => (List.not_mem_nil hz).elim⟩
      · rw [if_neg hy] at h
        obtain ⟨⟨before', x', after'⟩, hfound, heq⟩ := Option.map_eq_some_iff.mp h
        simp only [Prod.mk.injEq] at heq
        obtain ⟨rfl, rfl, rfl⟩ := heq
        obtain ⟨rfl, hx, hbefore⟩ := ih hfound
        refine ⟨rfl, hx, fun z hz => ?_⟩
        rcases List.mem_cons.mp hz with rfl | hz
        · exact Bool.not_eq_true _ ▸ hy
        · exact hbefore z hz

end Focus

/-- The first entry with a key. -/
theorem getMut_eq_some {key : String} {entries before after : List (String × Json)}
    {entry : String × Json} (h : getMut key entries = some (before, entry, after)) :
    entries = before ++ entry :: after ∧ entry.1 = key ∧ ∀ e ∈ before, e.1 ≠ key := by
  obtain ⟨hsplit, hentry, hbefore⟩ := focus_eq_some h
  exact ⟨hsplit, of_decide_eq_true hentry, fun e he => of_decide_eq_false (hbefore e he)⟩

/-- A hexadecimal digit is no slash. -/
theorem slash_not_mem_hash {hash : String} (h : isForwardedTextureHash hash = true) :
    '/' ∉ hash.toList := by
  intro hmem
  have hall := (Bool.and_eq_true_iff.mp h).2
  have hslash := List.all_eq_true.mp hall '/' hmem
  revert hslash
  decide

/-- A number is printed without a slash. -/
theorem slash_not_mem_nat (n : Nat) : '/' ∉ n.repr.toList := by
  intro hmem
  have hdigits : '/' ∈ Nat.toDigits 10 n := by simpa [Nat.repr] using hmem
  have hdigit : '/'.isDigit = true := Nat.isDigit_of_mem_toDigits (by decide) (by decide) hdigits
  revert hdigit
  decide

/-- A negative one too. -/
theorem slash_not_mem_int (n : Int) : '/' ∉ (toString n).toList := by
  rw [Int.toString_eq_repr, Int.repr_eq_if]
  split
  · exact slash_not_mem_nat _
  · rw [String.toList_append]
    intro hmem
    rcases List.mem_append.mp hmem with hminus | hdigits
    · revert hminus
      decide
    · exact slash_not_mem_nat _ hdigits

/-- **A URL that was written is split into its parts.** -/
theorem splitForwardedUrl_forwardedUrl {publicBaseUrl textureHash ticket : String}
    {upstreamId : Int} (hhash : '/' ∉ textureHash.toList) (hticket : '/' ∉ ticket.toList) :
    splitForwardedUrl (forwardedUrl publicBaseUrl upstreamId textureHash ticket) =
      some (upstreamId, textureHash, ticket) := by
  have hslash : ("/" : String).toList = ['/'] := rfl
  have hsplit : ∃ start, (forwardedUrl publicBaseUrl upstreamId textureHash ticket).toList.splitOn
      '/' = start ++ [(toString upstreamId).toList, textureHash.toList, ticket.toList] := by
    refine ⟨((trimEndSlashes publicBaseUrl ++
      "/sessionserver/session/minecraft/forwardedTextures").toList).splitOn '/', ?_⟩
    unfold forwardedUrl
    simp only [String.toList_append, hslash, List.append_assoc, List.cons_append, List.nil_append]
    rw [← List.append_assoc, List.splitOn_append_cons_self,
      List.splitOn_append_cons_self_of_not_mem (slash_not_mem_int upstreamId),
      List.splitOn_append_cons_self_of_not_mem hhash, List.splitOn_eq_singleton hticket]
  obtain ⟨start, hsplit⟩ := hsplit
  rw [splitForwardedUrl, hsplit]
  simp only [List.reverse_append, List.reverse_cons, List.reverse_nil, List.nil_append,
    List.cons_append, String.ofList_toList, Int.toString_eq_repr, Int.toInt?_repr,
    Option.map_some]

/-- A mapped error leaves a success. -/
theorem of_mapError {ε ε' α : Type} {f : ε → ε'} {r : Except ε α} {a : α}
    (h : r.mapError f = .ok a) : r = .ok a := by
  cases r with
  | error e => cases h
  | ok b => exact congrArg Except.ok (Except.ok.inj h)

/-- A text that is decoded and parsed is a payload. -/
theorem decodePayload_eq {env : ForwardEnv} {value : String} {bytes : List UInt8} {payload : Json}
    (hbase64 : env.base64Decode value = .ok bytes) (hjson : env.parseJson bytes = .ok payload) :
    decodePayload env value = .ok payload := by
  rw [decodePayload, hbase64]
  show (env.parseJson bytes).mapError _ = _
  rw [hjson]
  rfl

/-- The URL of a ticket that is encoded. -/
theorem forwardUrl_eq {env : ForwardEnv} {publicBaseUrl originalUrl textureHash ticket : String}
    {upstreamId : Int} (hhash : forwardedTextureHash env originalUrl = textureHash)
    (hticket : env.encodeTicket ⟨upstreamId, textureHash, originalUrl⟩ = .ok ticket) :
    forwardUrl env publicBaseUrl upstreamId originalUrl =
      .ok (forwardedUrl publicBaseUrl upstreamId textureHash ticket) := by
  rw [forwardUrl, hhash]
  show (env.encodeTicket ⟨upstreamId, textureHash, originalUrl⟩).mapError _ >>= _ = _
  rw [hticket]
  rfl

/-- The profile whose first property is rewritten. -/
theorem rewriteForwardedTextureUrls_eq {env : ForwardEnv} {upstreamId : Int}
    {profile : YggdrasilProfile} (property : ProfileProperty) (rest : List ProfileProperty)
    {value signature : String} {count : Nat}
    (hproperties : profile.properties = some (property :: rest))
    (hname : property.name = "textures")
    (h : rewriteProperty env upstreamId property.value = .ok (some (value, signature, count))) :
    rewriteForwardedTextureUrls env upstreamId profile = (.ok count, { profile with
      properties := some (⟨property.name, value, some signature⟩ :: rest) }) := by
  simp only [rewriteForwardedTextureUrls, hproperties, focus, hname, decide_true, if_true, h,
    List.nil_append]

/-! ## Resolving -/

section Resolving

variable {env : ForwardEnv}

/-- The hash of a URL looks like one. -/
theorem isForwardedTextureHash_forwardedTextureHash (henv : env.Lawful) (url : String) :
    isForwardedTextureHash (forwardedTextureHash env url) = true := by
  rw [forwardedTextureHash]
  cases hfound : ((env.parseUrl url).bind Url.pathSegments).bind fun segments =>
      segments.reverse.find? isForwardedTextureHash with
  | none => exact henv.hash _
  | some hash =>
      obtain ⟨segments, -, hhash⟩ := Option.bind_eq_some_iff.mp hfound
      exact List.find?_some hhash

/-- **A ticket resolves** to the URL in it. -/
theorem forwardedTextureUrl_ticket {upstreamId : Int} {textureHash originalUrl ticket : String}
    (hhash : isForwardedTextureHash textureHash = true)
    (hticket : env.decodeTicket ticket = some ⟨upstreamId, textureHash, originalUrl⟩) :
    forwardedTextureUrl env upstreamId textureHash ticket = httpUrl env originalUrl := by
  simp only [forwardedTextureUrl, hhash, hticket, Bool.not_true, Bool.false_eq_true, if_false,
    ne_eq, not_true_eq_false, decide_false, Bool.or_self]
  rw [httpUrl]
  cases env.parseUrl originalUrl with
  | none => rfl
  | some url =>
      rw [Option.filter_some]
      show (if (url.scheme = "http" || url.scheme = "https") = true then some url.text
        else none) = _
      split <;> rfl

/-- **Round trip of one URL.** -/
theorem resolve_forwardUrl (henv : env.Lawful) {publicBaseUrl originalUrl url : String}
    {upstreamId : Int} (h : forwardUrl env publicBaseUrl upstreamId originalUrl = .ok url) :
    resolve env url = httpUrl env originalUrl := by
  have hhash := isForwardedTextureHash_forwardedTextureHash henv originalUrl
  obtain ⟨ticket, hencoded, hurl⟩ := except_bind_ok h
  obtain rfl := Except.ok.inj hurl
  obtain ⟨hdecoded, hslash⟩ := henv.ticket _ _ (of_mapError hencoded)
  rw [resolve, splitForwardedUrl_forwardedUrl (slash_not_mem_hash hhash) hslash, Option.bind_some]
  exact forwardedTextureUrl_ticket hhash hdecoded

/-! ## Rewriting -/

/-- A written URL resolves to the original, if this is an http or https URL. -/
def ResolvesTo (env : ForwardEnv) (originalUrl url : String) : Prop :=
  resolve env url = httpUrl env originalUrl

/-- **One texture** is rewritten to a URL whose ticket names the original, or stays. -/
theorem rewriteTexture_spec (henv : env.Lawful) {publicBaseUrl textureType : String}
    {upstreamId : Int} {texture texture' : Json} {rewritten : Bool}
    (h : rewriteTexture env publicBaseUrl upstreamId texture = .ok (texture', rewritten)) :
    TextureRewritten (ResolvesTo env) (textureType, texture) (textureType, texture') := by
  refine ⟨rfl, ?_⟩
  unfold rewriteTexture at h
  split at h
  · next entries =>
      split at h
      · next before key originalUrl after hfound =>
          obtain ⟨hentries, hkey, hbefore⟩ := getMut_eq_some hfound
          obtain rfl : key = "url" := hkey
          obtain ⟨url, hurl, hwritten⟩ := except_bind_ok h
          obtain ⟨rfl, -⟩ := Prod.mk.inj (Except.ok.inj hwritten)
          refine Or.inr ⟨before, after, originalUrl, url, hbefore, ?_, rfl,
            resolve_forwardUrl henv hurl⟩
          rw [hentries]
      · obtain ⟨rfl, -⟩ := Prod.mk.inj (Except.ok.inj h)
        exact Or.inl rfl
  · obtain ⟨rfl, -⟩ := Prod.mk.inj (Except.ok.inj h)
    exact Or.inl rfl

/-- So are all textures of a payload, and the rewritten ones are counted. -/
theorem rewriteTextures_spec (henv : env.Lawful) {publicBaseUrl : String} {upstreamId : Int}
    {textures textures' : List (String × Json)} {count : Nat}
    (h : rewriteTextures env publicBaseUrl upstreamId textures = .ok (textures', count)) :
    List.Forall₂ (TextureRewritten (ResolvesTo env)) textures textures' := by
  induction textures generalizing textures' count with
  | nil =>
      obtain ⟨rfl, -⟩ := Prod.mk.inj (Except.ok.inj h)
      exact List.Forall₂.nil
  | cons entry rest ih =>
      obtain ⟨textureType, texture⟩ := entry
      obtain ⟨⟨texture', rewritten⟩, hone, h⟩ := except_bind_ok h
      obtain ⟨⟨rest', others⟩, hrest, h⟩ := except_bind_ok h
      obtain ⟨rfl, -⟩ := Prod.mk.inj (Except.ok.inj h)
      exact List.Forall₂.cons (rewriteTexture_spec henv hone) (ih hrest)

/-- What was signed is decoded to the payload. -/
theorem signPayload_spec (henv : env.Lawful) {payload : Json} {value signature : String}
    (h : signPayload env payload = .ok (value, signature)) :
    decodePayload env value = .ok payload := by
  obtain ⟨encoded, hencoded, h⟩ := except_bind_ok h
  obtain ⟨signed, -, h⟩ := except_bind_ok h
  cases signed with
  | none => cases h
  | some signature' =>
      obtain ⟨rfl, -⟩ := Prod.mk.inj (Except.ok.inj h)
      exact henv.payload _ _ (of_mapError hencoded)

/-- **The property** keeps everything but URLs. -/
theorem rewriteProperty_spec (henv : env.Lawful) {upstreamId : Int} {value value' : String}
    {signature : String} {count : Nat}
    (h : rewriteProperty env upstreamId value = .ok (some (value', signature, count))) :
    ∃ payload payload', decodePayload env value = .ok payload ∧
      decodePayload env value' = .ok payload' ∧
      PayloadRewritten (ResolvesTo env) payload payload' := by
  obtain ⟨payload, hpayload, h⟩ := except_bind_ok h
  cases payload with
  | object entries =>
      dsimp only at h
      split at h
      · next before key textures after hfound =>
          obtain ⟨hentries, hkey, hbefore⟩ := getMut_eq_some hfound
          obtain rfl : key = "textures" := hkey
          split at h
          · cases h
          · next publicBaseUrl hbase =>
              obtain ⟨⟨textures', written⟩, htextures, h⟩ := except_bind_ok h
              dsimp only at h
              split at h
              · cases h
              · obtain ⟨⟨encoded, signed⟩, hsigned, h⟩ := except_bind_ok h
                obtain ⟨rfl, -⟩ := Prod.mk.inj (Option.some.inj (Except.ok.inj h))
                exact ⟨_, _, hpayload, signPayload_spec henv hsigned, before, after, textures,
                  textures', hbefore, congrArg Json.object hentries, rfl,
                  rewriteTextures_spec henv htextures⟩
      · cases h
  | _ => cases h

/-- **Forwarded texture URLs survive the proxy.**  An error leaves the profile as it was;
otherwise the profile is unchanged, or its first `textures` property has a payload that
differs in URL texts only, and each URL that was written resolves to the original one,
normalised, if that is an http or https URL, and to nothing otherwise. -/
theorem rewrite_faithful (henv : env.Lawful) (upstreamId : Int) (profile : YggdrasilProfile) :
    match rewriteForwardedTextureUrls env upstreamId profile with
    | (.error _, profile') => profile' = profile
    | (.ok _, profile') =>
        profile' = profile ∨ ProfileRewritten env (ResolvesTo env) profile profile' := by
  unfold rewriteForwardedTextureUrls
  cases hproperties : profile.properties with
  | none => exact Or.inl rfl
  | some properties =>
      dsimp only
      cases hfound : focus (fun property : ProfileProperty => property.name = "textures")
          properties with
      | none => exact Or.inl rfl
      | some found =>
          obtain ⟨before, property, after⟩ := found
          obtain ⟨rfl, hname, hbefore⟩ := focus_eq_some hfound
          dsimp only
          cases hrewritten : rewriteProperty env upstreamId property.value with
          | error error => rfl
          | ok result =>
              cases result with
              | none => exact Or.inl rfl
              | some written =>
                  obtain ⟨value, signature, count⟩ := written
                  obtain ⟨payload, payload', hpayload, hpayload', hurls⟩ :=
                    rewriteProperty_spec henv hrewritten
                  exact Or.inr ⟨before, property, after, value, signature, payload, payload',
                    fun p hp => of_decide_eq_false (hbefore p hp), of_decide_eq_true hname,
                    hproperties, rfl, hpayload, hpayload', hurls⟩

end Resolving

/-! ## A profile with two textures -/

/-- The URL of a skin whose path ends in a hash. -/
def skinUrl : String := "http://t.example/0123456789abcdef0123456789abcdef"

/-- A text that is not an absolute URL. -/
def capeUrl : String := "a.png"

/-- The hash of `capeUrl`. -/
def capeHash : String := "7f071235805fbf58a2524f77bff76e1391d0d1cfe2f4c190d73054495e05b460"

def skinTicket : ForwardedTextureTicket := ⟨7, "0123456789abcdef0123456789abcdef", skinUrl⟩

def capeTicket : ForwardedTextureTicket := ⟨7, capeHash, capeUrl⟩

/-- The tickets under the secret `secret`. -/
@[irreducible] def skinTicketText : String :=
  "eyJ0eXAiOiJKV1QiLCJhbGciOiJIUzI1NiJ9.eyJzIjo3LCJoIjoiMDEyMzQ1Njc4OWFiY2RlZjAxMjM0NTY" ++
    "3ODlhYmNkZWYiLCJ1IjoiaHR0cDovL3QuZXhhbXBsZS8wMTIzNDU2Nzg5YWJjZGVmMDEyMzQ1Njc4OWFiY2R" ++
    "lZiJ9.SOLUYU3u9r04R0-Q6FVE9mjf2vJj65uiC4qNIIxyTOg"

@[irreducible] def capeTicketText : String :=
  "eyJ0eXAiOiJKV1QiLCJhbGciOiJIUzI1NiJ9.eyJzIjo3LCJoIjoiN2YwNzEyMzU4MDVmYmY1OGEyNTI0Zjc" ++
    "3YmZmNzZlMTM5MWQwZDFjZmUyZjRjMTkwZDczMDU0NDk1ZTA1YjQ2MCIsInUiOiJhLnBuZyJ9.8OgaPiZf3G" ++
    "XaRqT54vRoEo1iDhVb50En8WjE1jrP1Ck"

/-- A payload with these two URLs, its text, and the base64 text. -/
def twoTextures (cape skin : String) : Json :=
  .object [("textures", .object [("CAPE", .object [("url", .string cape)]),
    ("SKIN", .object [("url", .string skin)])])]

@[irreducible] def originalValue : String :=
  "eyJ0ZXh0dXJlcyI6eyJDQVBFIjp7InVybCI6ImEucG5nIn0sIlNLSU4iOnsidXJsIjoiaHR0cDovL3QuZXhh" ++
    "bXBsZS8wMTIzNDU2Nzg5YWJjZGVmMDEyMzQ1Njc4OWFiY2RlZiJ9fX0="

@[irreducible] def rewrittenValue : String :=
  "eyJ0ZXh0dXJlcyI6eyJDQVBFIjp7InVybCI6Imh0dHBzOi8vcy5leGFtcGxlL3Nlc3Npb25zZXJ2ZXIvc2Vz" ++
    "c2lvbi9taW5lY3JhZnQvZm9yd2FyZGVkVGV4dHVyZXMvNy83ZjA3MTIzNTgwNWZiZjU4YTI1MjRmNzdiZmY3" ++
    "NmUxMzkxZDBkMWNmZTJmNGMxOTBkNzMwNTQ0OTVlMDViNDYwL2V5SjBlWEFpT2lKS1YxUWlMQ0poYkdjaU9p" ++
    "SklVekkxTmlKOS5leUp6SWpvM0xDSm9Jam9pTjJZd056RXlNelU0TURWbVltWTFPR0V5TlRJMFpqYzNZbVpt" ++
    "TnpabE1UTTVNV1F3WkRGalptVXlaalJqTVRrd1pEY3pNRFUwTkRrMVpUQTFZalEyTUNJc0luVWlPaUpoTG5C" ++
    "dVp5SjkuOE9nYVBpWmYzR1hhUnFUNTR2Um9FbzFpRGhWYjUwRW44V2pFMWpyUDFDayJ9LCJTS0lOIjp7InVy" ++
    "bCI6Imh0dHBzOi8vcy5leGFtcGxlL3Nlc3Npb25zZXJ2ZXIvc2Vzc2lvbi9taW5lY3JhZnQvZm9yd2FyZGVk" ++
    "VGV4dHVyZXMvNy8wMTIzNDU2Nzg5YWJjZGVmMDEyMzQ1Njc4OWFiY2RlZi9leUowZVhBaU9pSktWMVFpTENK" ++
    "aGJHY2lPaUpJVXpJMU5pSjkuZXlKeklqbzNMQ0pvSWpvaU1ERXlNelExTmpjNE9XRmlZMlJsWmpBeE1qTTBO" ++
    "VFkzT0RsaFltTmtaV1lpTENKMUlqb2lhSFIwY0RvdkwzUXVaWGhoYlhCc1pTOHdNVEl6TkRVMk56ZzVZV0pq" ++
    "WkdWbU1ERXlNelExTmpjNE9XRmlZMlJsWmlKOS5TT0xVWVUzdTlyMDRSMC1RNkZWRTltamYydkpqNjV1aUM0" ++
    "cU5JSXh5VE9nIn19fQ=="

/-- The JSON text of `twoTextures`. -/
@[irreducible] def twoTexturesText (cape skin : String) : List UInt8 :=
  ("\x7b\"textures\":\x7b\"CAPE\":\x7b\"url\":\"" ++ cape ++
    "\"\x7d,\"SKIN\":\x7b\"url\":\"" ++ skin ++ "\"\x7d\x7d\x7d").toUTF8.data.toList

/-- The URLs that are written. -/
def writtenSkinUrl : String := forwardedUrl "https://s.example/" 7 skinTicket.h skinTicketText

def writtenCapeUrl : String := forwardedUrl "https://s.example/" 7 capeHash capeTicketText

/-- The parameters, on what this profile needs of them. -/
def twoTexturesEnv : ForwardEnv where
  publicBaseUrls := ["https://s.example/"]
  base64Decode value :=
    if value = rewrittenValue then .ok (twoTexturesText writtenCapeUrl writtenSkinUrl)
    else if value = originalValue then .ok (twoTexturesText capeUrl skinUrl)
    else .error "Invalid padding"
  parseJson bytes :=
    if bytes = twoTexturesText writtenCapeUrl writtenSkinUrl then
      .ok (twoTextures writtenCapeUrl writtenSkinUrl)
    else if bytes = twoTexturesText capeUrl skinUrl then .ok (twoTextures capeUrl skinUrl)
    else .error "expected value at line 1 column 1"
  encodePayload
    | .object [(textures, .object [(cape, .object [(url, .string capeUrl)]),
        (skin, .object [(url', .string skinUrl)])])] =>
        if [textures, cape, url, skin, url'] = ["textures", "CAPE", "url", "SKIN", "url"] ∧
            capeUrl = writtenCapeUrl ∧ skinUrl = writtenSkinUrl then .ok rewrittenValue
        else .error "not encoded"
    | _ => .error "not encoded"
  signTextureProperty _ := .ok (some "c2lnbmF0dXJl")
  parseUrl url :=
    if url = skinUrl then some ⟨"http", some [skinTicket.h], skinUrl⟩ else none
  sha256Hex _ := capeHash
  encodeTicket ticket :=
    if ticket = skinTicket then .ok skinTicketText
    else if ticket = capeTicket then .ok capeTicketText
    else .error "not encoded"
  decodeTicket text :=
    if text = skinTicketText then some skinTicket
    else if text = capeTicketText then some capeTicket
    else none

section TwoTextures

theorem twoTexturesEnv_base64Decode (value : String) :
    twoTexturesEnv.base64Decode value =
      if value = rewrittenValue then .ok (twoTexturesText writtenCapeUrl writtenSkinUrl)
      else if value = originalValue then .ok (twoTexturesText capeUrl skinUrl)
      else .error "Invalid padding" := rfl

theorem twoTexturesEnv_parseJson (bytes : List UInt8) :
    twoTexturesEnv.parseJson bytes =
      if bytes = twoTexturesText writtenCapeUrl writtenSkinUrl then
        .ok (twoTextures writtenCapeUrl writtenSkinUrl)
      else if bytes = twoTexturesText capeUrl skinUrl then .ok (twoTextures capeUrl skinUrl)
      else .error "expected value at line 1 column 1" := rfl

theorem twoTexturesEnv_parseUrl (url : String) :
    twoTexturesEnv.parseUrl url =
      if url = skinUrl then some ⟨"http", some [skinTicket.h], skinUrl⟩ else none := rfl

theorem twoTexturesEnv_encodeTicket (ticket : ForwardedTextureTicket) :
    twoTexturesEnv.encodeTicket ticket =
      if ticket = skinTicket then .ok skinTicketText
      else if ticket = capeTicket then .ok capeTicketText
      else .error "not encoded" := rfl

theorem twoTexturesEnv_decodeTicket (text : String) :
    twoTexturesEnv.decodeTicket text =
      if text = skinTicketText then some skinTicket
      else if text = capeTicketText then some capeTicket
      else none := rfl

/-- The characters of a literal are written out before they are looked at. -/
theorem notMem_literal {c : Char} {text : String} {cs : List Char}
    (htext : text = String.ofList cs) (hcs : cs.all (· ≠ c) = true) : c ∉ text.toList := by
  rw [htext, String.toList_ofList]
  intro hmem
  exact absurd rfl (of_decide_eq_true (List.all_eq_true.mp hcs c hmem))

/-- Texts that begin with different literals of one length are different. -/
theorem literals_ne {a b rest rest' : String} {as bs : List Char} (ha : a = String.ofList as)
    (hb : b = String.ofList bs) (hlength : as.length = bs.length) (hne : as ≠ bs) :
    a ++ rest ≠ b ++ rest' := by
  intro heq
  have hlists := congrArg String.toList heq
  rw [String.toList_append, String.toList_append, ha, hb, String.toList_ofList,
    String.toList_ofList] at hlists
  exact hne (List.append_inj_left hlists hlength)

/-- A literal is a hash by its characters. -/
theorem isForwardedTextureHash_literal {text : String} {cs : List Char}
    (htext : text = String.ofList cs) (hsize : [32, 40, 64].contains (String.utf8Len cs) = true)
    (hcs : cs.all isAsciiHexdigit = true) : isForwardedTextureHash text = true := by
  rw [isForwardedTextureHash, htext, String.toList_ofList, hcs, String.utf8ByteSize_ofList, hsize]
  rfl

/-- What the characters of the texts decide: which values are different, that no ticket
has a slash, and that the hashes are hashes. -/
structure TextFacts : Prop where
  value : originalValue ≠ rewrittenValue
  ticketText : capeTicketText ≠ skinTicketText
  others : capeTicket ≠ skinTicket ∧ capeUrl ≠ skinUrl ∧
    twoTexturesText capeUrl skinUrl ≠ twoTexturesText writtenCapeUrl writtenSkinUrl
  skinSlash : '/' ∉ skinTicketText.toList
  capeSlash : '/' ∉ capeTicketText.toList
  skinHash : isForwardedTextureHash skinTicket.h = true
  capeHash : isForwardedTextureHash capeHash = true

/-- What is to be computed about the texts of the example. -/
theorem textFacts : TextFacts where
  value := by
    unfold originalValue rewrittenValue
    simp only [String.append_assoc]
    exact literals_ne rfl rfl (by decide +kernel) (by decide +kernel)
  ticketText := by
    unfold capeTicketText skinTicketText
    simp only [String.append_assoc]
    exact literals_ne rfl rfl (by decide +kernel) (by decide +kernel)
  others := by decide +kernel
  skinSlash := by
    unfold skinTicketText
    simp only [String.toList_append, List.mem_append, not_or]
    refine ⟨⟨?_, ?_⟩, ?_⟩ <;> exact notMem_literal rfl (by decide +kernel)
  capeSlash := by
    unfold capeTicketText
    simp only [String.toList_append, List.mem_append, not_or]
    refine ⟨⟨?_, ?_⟩, ?_⟩ <;> exact notMem_literal rfl (by decide +kernel)
  skinHash := isForwardedTextureHash_literal rfl (by decide +kernel) (by decide +kernel)
  capeHash := isForwardedTextureHash_literal rfl (by decide +kernel) (by decide +kernel)

/-- The hash of a URL is in its path, or made of its text. -/
theorem forwardedTextureHash_urls :
    forwardedTextureHash twoTexturesEnv skinUrl = skinTicket.h ∧
      forwardedTextureHash twoTexturesEnv capeUrl = capeHash := by
  have hskin : twoTexturesEnv.parseUrl skinUrl =
      some ⟨"http", some [skinTicket.h], skinUrl⟩ := by
    rw [twoTexturesEnv_parseUrl, if_pos rfl]
  have hcape : twoTexturesEnv.parseUrl capeUrl = none := by
    rw [twoTexturesEnv_parseUrl, if_neg textFacts.others.2.1]
  constructor
  · simp only [forwardedTextureHash, hskin, Option.bind_some, List.reverse_singleton,
      List.find?_cons, textFacts.skinHash, Option.getD_some]
  · simp only [forwardedTextureHash, hcape, Option.bind_none, Option.getD_none]
    rfl

/-- Both payloads of the example are decoded. -/
theorem decodePayload_values :
    decodePayload twoTexturesEnv rewrittenValue =
        .ok (twoTextures writtenCapeUrl writtenSkinUrl) ∧
      decodePayload twoTexturesEnv originalValue = .ok (twoTextures capeUrl skinUrl) := by
  constructor
  · have hbase64 : twoTexturesEnv.base64Decode rewrittenValue =
        .ok (twoTexturesText writtenCapeUrl writtenSkinUrl) := by
      rw [twoTexturesEnv_base64Decode, if_pos rfl]
    have hjson : twoTexturesEnv.parseJson (twoTexturesText writtenCapeUrl writtenSkinUrl) =
        .ok (twoTextures writtenCapeUrl writtenSkinUrl) := by
      rw [twoTexturesEnv_parseJson, if_pos rfl]
    exact decodePayload_eq hbase64 hjson
  · have hbase64 : twoTexturesEnv.base64Decode originalValue =
        .ok (twoTexturesText capeUrl skinUrl) := by
      rw [twoTexturesEnv_base64Decode, if_neg textFacts.value, if_pos rfl]
    have hjson : twoTexturesEnv.parseJson (twoTexturesText capeUrl skinUrl) =
        .ok (twoTextures capeUrl skinUrl) := by
      rw [twoTexturesEnv_parseJson, if_neg textFacts.others.2.2, if_pos rfl]
    exact decodePayload_eq hbase64 hjson

/-- So are both tickets encoded. -/
theorem encodeTicket_tickets :
    twoTexturesEnv.encodeTicket skinTicket = .ok skinTicketText ∧
      twoTexturesEnv.encodeTicket capeTicket = .ok capeTicketText := by
  constructor
  · rw [twoTexturesEnv_encodeTicket, if_pos rfl]
  · rw [twoTexturesEnv_encodeTicket, if_neg textFacts.others.1, if_pos rfl]

/-- The environment of the example obeys the laws. -/
theorem twoTexturesEnv_lawful : twoTexturesEnv.Lawful where
  payload payload value h := by
    delta twoTexturesEnv at h
    dsimp only at h
    split at h
    · next textures cape url capeUrl skin url' skinUrl =>
        split at h
        · next hkeys =>
            obtain ⟨hkeys, rfl, rfl⟩ := hkeys
            simp only [List.cons.injEq, and_true] at hkeys
            obtain ⟨rfl, rfl, rfl, rfl, rfl⟩ := hkeys
            obtain rfl := Except.ok.inj h
            exact decodePayload_values.1
        · cases h
    · cases h
  ticket ticket text h := by
    rw [twoTexturesEnv_encodeTicket] at h
    rw [twoTexturesEnv_decodeTicket]
    split at h
    · next hskin =>
        obtain rfl := Except.ok.inj h
        rw [hskin, if_pos rfl]
        exact ⟨rfl, textFacts.skinSlash⟩
    · split at h
      · next hcape =>
          obtain rfl := Except.ok.inj h
          rw [hcape, if_neg textFacts.ticketText, if_pos rfl]
          exact ⟨rfl, textFacts.capeSlash⟩
      · cases h
  hash _ := textFacts.capeHash

/-- A profile with a skin and a cape. -/
def twoTexturesProfile : YggdrasilProfile where
  id := "069a79f444e94726a5befca90e38aaf5"
  name := "Notch"
  source := none
  properties := some [⟨"textures", originalValue, none⟩]

/-- The profile as it leaves the proxy. -/
def rewrittenProfile : YggdrasilProfile :=
  { twoTexturesProfile with
    properties := some [⟨"textures", rewrittenValue, some "c2lnbmF0dXJl"⟩] }

/-- Which gives two URLs of this server. -/
theorem forwardUrl_urls :
    forwardUrl twoTexturesEnv "https://s.example/" 7 skinUrl = .ok writtenSkinUrl ∧
      forwardUrl twoTexturesEnv "https://s.example/" 7 capeUrl = .ok writtenCapeUrl :=
  ⟨forwardUrl_eq forwardedTextureHash_urls.1 encodeTicket_tickets.1,
    forwardUrl_eq forwardedTextureHash_urls.2 encodeTicket_tickets.2⟩

/-- The property of the example is rewritten. -/
theorem rewriteProperty_originalValue :
    rewriteProperty twoTexturesEnv 7 originalValue =
      .ok (some (rewrittenValue, "c2lnbmF0dXJl", 2)) := by
  have htextures : rewriteTextures twoTexturesEnv "https://s.example/" 7
      [("CAPE", .object [("url", .string capeUrl)]), ("SKIN", .object [("url", .string skinUrl)])] =
      .ok ([("CAPE", .object [("url", .string writtenCapeUrl)]),
        ("SKIN", .object [("url", .string writtenSkinUrl)])], 2) := by
    simp only [rewriteTextures, rewriteTexture, getMut, focus, decide_true, if_true,
      forwardUrl_urls.2, forwardUrl_urls.1]
    rfl
  have hsigned : signPayload twoTexturesEnv (twoTextures writtenCapeUrl writtenSkinUrl) =
      .ok (rewrittenValue, "c2lnbmF0dXJl") := by
    have hencoded : twoTexturesEnv.encodePayload (twoTextures writtenCapeUrl writtenSkinUrl) =
        .ok rewrittenValue := by
      delta twoTexturesEnv
      simp only [twoTextures, and_self, if_true]
    rw [signPayload, hencoded]
    rfl
  have hbase : twoTexturesEnv.publicBaseUrls.head? = some "https://s.example/" := rfl
  have hsigned' : signPayload twoTexturesEnv (.object ([] ++ ("textures", .object
      [("CAPE", .object [("url", .string writtenCapeUrl)]),
        ("SKIN", .object [("url", .string writtenSkinUrl)])]) :: [])) =
      .ok (rewrittenValue, "c2lnbmF0dXJl") := hsigned
  rw [rewriteProperty, decodePayload_values.2]
  simp only [twoTextures, getMut, focus, decide_true, if_true, hbase, htextures, hsigned', bind,
    Except.bind, pure, Except.pure, OfNat.ofNat_ne_zero, if_false]

/-- The profile is rewritten. -/
theorem rewrite_twoTexturesProfile :
    rewriteForwardedTextureUrls twoTexturesEnv 7 twoTexturesProfile =
      (.ok 2, rewrittenProfile) :=
  rewriteForwardedTextureUrls_eq ⟨"textures", originalValue, none⟩ [] rfl rfl
    rewriteProperty_originalValue

/-- And its profile faithfully. -/
theorem twoTexturesProfile_faithful :
    (rewriteForwardedTextureUrls twoTexturesEnv 7 twoTexturesProfile).1 = .ok 2 ∧
      match rewriteForwardedTextureUrls twoTexturesEnv 7 twoTexturesProfile with
      | (.error _, profile') => profile' = twoTexturesProfile
      | (.ok _, profile') => profile' = twoTexturesProfile ∨
          ProfileRewritten twoTexturesEnv (ResolvesTo twoTexturesEnv) twoTexturesProfile
            profile' := by
  refine ⟨?_, rewrite_faithful twoTexturesEnv_lawful 7 twoTexturesProfile⟩
  rw [rewrite_twoTexturesProfile]

/-- **The cape is lost**: its text is no URL, so what was written in its place resolves to
nothing. -/
theorem capeUrl_lost :
    twoTexturesEnv.Lawful ∧
      rewriteForwardedTextureUrls twoTexturesEnv 7 twoTexturesProfile =
        (.ok 2, rewrittenProfile) ∧
      decodePayload twoTexturesEnv rewrittenValue =
        .ok (twoTextures writtenCapeUrl writtenSkinUrl) ∧
      resolve twoTexturesEnv writtenCapeUrl = none := by
  refine ⟨twoTexturesEnv_lawful, rewrite_twoTexturesProfile, decodePayload_values.1, ?_⟩
  rw [resolve_forwardUrl twoTexturesEnv_lawful forwardUrl_urls.2]
  decide +kernel

end TwoTextures

end AsterYggdrasil.Forwarding
