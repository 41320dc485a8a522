import AsterYggdrasil.Texture.Storage

/-!
# Previews

The address of a preview names the hash of an image and a file.  The file name
is made from the model of the skin and a digest of the render parameters, so
that an answer can be cached for ever.  Who asks for the file gets a preview of
*some* row with the hash: the lookup compares nothing else.  Rows that share an
image may differ in type and model, and the address of one of them is then
refused whenever the database picks another one.
-/

namespace AsterYggdrasil.Textures

open Interleave Relational
open Interleave.Prog

/-! ## Render parameters -/

inductive TexturePreviewEngine
  | skin3d | skin2d
  deriving DecidableEq, Repr

/-- `TexturePreviewEngine::as_str`. -/
def TexturePreviewEngine.asStr : TexturePreviewEngine → String
  | .skin3d => "skin-3d"
  | .skin2d => "skin-2d"

inductive TexturePreviewQualityProfile
  | fast | default | quality
  deriving DecidableEq, Repr

inductive TexturePreviewBackground
  | transparent
  | solid (red green blue alpha : UInt8)
  deriving DecidableEq, Repr

/-- `TexturePreviewSpec`. -/
structure TexturePreviewSpec where
  engine : TexturePreviewEngine
  profile : TexturePreviewQualityProfile
  width : UInt32
  height : UInt32
  background : TexturePreviewBackground
  showOuterLayer : Bool
  scale : Float32
  pitch : Float32
  frontYaw : Float32
  backYaw : Float32
  spacing3d : Float32
  xOffset : Float32
  yOffset : Float32
  centerY : Float32
  supersampling : UInt8
  padding2d : UInt32
  spacing2d : UInt32

/-- `MinecraftTextureModel::as_str`. -/
def modelAsStr : MinecraftTextureModel → String
  | .default => "default"
  | .slim => "slim"

/-- What the fingerprint of a preview is taken of. -/
structure PreviewFingerprint where
  version : UInt8
  format : String
  model : String
  spec : TexturePreviewSpec

/-- The libraries behind previews: serialisation, the text of a specification for
a debugger, the digest, and rendering with its decoder and encoder.  The last
two fields are the images of the default skins. -/
structure PreviewLibraries where
  serialize : PreviewFingerprint → Option (List UInt8)
  debugSpec : TexturePreviewSpec → String
  sha256 : List UInt8 → List UInt8
  renderPreviewPng : List UInt8 → MinecraftTextureModel → TexturePreviewSpec →
    Except AsterError (List UInt8)
  missingObject : String → AsterError
  steveBytes : List UInt8
  alexBytes : List UInt8

/-- `hex::encode`. -/
def hexEncode (bytes : List UInt8) : List Char :=
  bytes.flatMap fun b => [Nat.digitChar (b.toNat / 16), Nat.digitChar (b.toNat % 16)]

/-- `preview_fingerprint`: sixteen digits. -/
def previewFingerprint (libs : PreviewLibraries) (spec : TexturePreviewSpec)
    (model : MinecraftTextureModel) : String :=
  let payload := match libs.serialize ⟨1, "png", modelAsStr model, spec⟩ with
    | some payload => payload
    | none => ("v1:png:" ++ modelAsStr model ++ ":" ++ libs.debugSpec spec).toUTF8.toList
  String.ofList ((hexEncode (libs.sha256 payload)).take 16)

/-- `preview_file_name`. -/
def previewFileName (libs : PreviewLibraries) (spec : TexturePreviewSpec)
    (model : MinecraftTextureModel) : String :=
  spec.engine.asStr ++ "-" ++ modelAsStr model ++ "-" ++ previewFingerprint libs spec model ++
    ".png"

/-- `preview_storage_key`. -/
def previewStorageKey (hash fileName : String) : String :=
  "texture-previews/" ++ hash ++ "/" ++ fileName

/-! ## Addresses -/

def previewScope : String := "/api/v1/texture-previews/"

/-- `current_texture_preview_url`. -/
def currentTexturePreviewUrl (libs : PreviewLibraries) (spec : TexturePreviewSpec)
    (hash : String) (textureType : TextureType) (textureModel : MinecraftTextureModel) :
    Option String :=
  if textureType ≠ .skin || !isValidTextureHash hash then none
  else some (previewScope ++ hash ++ "/" ++ previewFileName libs spec textureModel)

/-- The route `/{hash}/{file_name}` of its scope: two segments, none of them
empty. -/
def routePreview (url : String) : Option (String × String) :=
  match previewScope.toList.isPrefixOf? url.toList with
  | none => none
  | some path =>
      match splitOnce '/' path with
      | none => none
      | some (hash, fileName) =>
          if hash.isEmpty || fileName.isEmpty || fileName.contains '/' then none
          else some (String.ofList hash, String.ofList fileName)

/-! ## Serving -/

/-- The bytes under a key. -/
def TextureState.object (s : TextureState) (storageKey : String) : Option (List UInt8) :=
  (s.objects.find? fun o => o.1 = storageKey).map Prod.snd

/-- `PreviewSource`. -/
structure PreviewSource where
  bytes : List UInt8
  textureModel : MinecraftTextureModel
  deriving DecidableEq, Repr

/-- `TexturePreviewBytes`. -/
structure TexturePreviewBytes where
  bytes : List UInt8
  storageKey : String
  deriving DecidableEq, Repr

/-- `texture_preview_not_found`. -/
def texturePreviewNotFound (message : String) : AsterError :=
  .recordNotFoundCode .minecraftTextureNotFound message

def steveHash : String := "082fdbe1403d09fcf030464bf754439ee79e9287bb15efbe2f54d02f60108133"

def alexHash : String := "394b483392052fb28d6271c736ba0df0394223c93b6348f1f1d135fdb7412daa"

/-- `default_skin::by_hash`. -/
def defaultSkinByHash (libs : PreviewLibraries) (hash : String) : Option PreviewSource :=
  if hash = steveHash then some ⟨libs.steveBytes, .default⟩
  else if hash = alexHash then some ⟨libs.alexBytes, .slim⟩
  else none

/-- `find_by_hash`: the query has no order and takes one row, so it is up to the
database which one. -/
structure FindByHash where
  pick : TextureState → String → Option MinecraftTexture
  found : ∀ {s hash t}, pick s hash = some t → t ∈ s.textures.rows ∧ t.hash = hash
  complete : ∀ {s hash t}, pick s hash = none → t ∈ s.textures.rows → t.hash ≠ hash

/-- `texture_by_hash`. -/
def textureByHash (find : FindByHash) (s : TextureState) (hash : String) :
    Option MinecraftTexture :=
  if !isValidTextureHash hash then none else find.pick s hash

/-- `read_object_storage_key`. -/
def readObjectStorageKey (libs : PreviewLibraries) (s : TextureState) (storageKey : String) :
    Except AsterError (List UInt8) :=
  match s.object storageKey with
  | some bytes => .ok bytes
  | none => .error (libs.missingObject storageKey)

/-- `preview_source_from_texture`. -/
def previewSourceFromTexture (libs : PreviewLibraries) (s : TextureState)
    (texture : MinecraftTexture) : Except AsterError PreviewSource :=
  if texture.textureType ≠ .skin then .error (texturePreviewNotFound "non-skin texture")
  else (readObjectStorageKey libs s texture.storageKey).map fun bytes =>
    ⟨bytes, texture.textureModel⟩

/-- `resolve_preview_source`. -/
def resolvePreviewSource (libs : PreviewLibraries) (find : FindByHash) (s : TextureState)
    (hash : String) : Except AsterError PreviewSource :=
  match textureByHash find s hash with
  | some texture => previewSourceFromTexture libs s texture
  | none =>
      match defaultSkinByHash libs hash with
      | some source => .ok source
      | none => .error (texturePreviewNotFound "texture")

/-- The preview of a source: from the cache, or rendered and put there. -/
def servePreview (libs : PreviewLibraries) (spec : TexturePreviewSpec) (s : TextureState)
    (source : PreviewSource) (storageKey : String) :
    Except AsterError TexturePreviewBytes × TextureState :=
  match s.object storageKey with
  | some bytes => (.ok ⟨bytes, storageKey⟩, s)
  | none =>
      match libs.renderPreviewPng source.bytes source.textureModel spec with
      | .error e => (.error e, s)
      | .ok bytes => (.ok ⟨bytes, storageKey⟩, s.putObject storageKey bytes)

/-- `texture_preview_by_hash`, with the state it leaves. -/
def texturePreviewByHash (libs : PreviewLibraries) (find : FindByHash)
    (spec : TexturePreviewSpec) (s : TextureState) (hash fileName : String) :
    Except AsterError TexturePreviewBytes × TextureState :=
  if !isValidTextureHash hash then
    (.error (texturePreviewNotFound "invalid texture hash"), s)
  else
    match resolvePreviewSource libs find s hash with
    | .error e => (.error e, s)
    | .ok source =>
        let expectedFileName := previewFileName libs spec source.textureModel
        if fileName ≠ expectedFileName then
          (.error (texturePreviewNotFound "texture preview variant"), s)
        else servePreview libs spec s source (previewStorageKey hash expectedFileName)

/-- A request for an address. -/
def requestPreview (libs : PreviewLibraries) (find : FindByHash) (spec : TexturePreviewSpec)
    (s : TextureState) (url : String) : Except AsterError TexturePreviewBytes × TextureState :=
  match routePreview url with
  | none => (.error (texturePreviewNotFound "route"), s)
  | some (hash, fileName) => texturePreviewByHash libs find spec s hash fileName

/-! ## File names and keys -/

theorem digitChar_ne_slash (n : Nat) : Nat.digitChar n ≠ '/' := by
  by_cases hn : n < 16
  · have hdigits : ∀ n < 16, Nat.digitChar n ≠ '/' := by decide
    exact hdigits n hn
  · rw [Nat.digitChar_eq_star.mpr (by omega)]
    decide

theorem slash_notMem_hexEncode (bytes : List UInt8) : '/' ∉ hexEncode bytes := by
  intro h
  obtain ⟨b, -, hmem⟩ := List.mem_flatMap.mp h
  rcases List.mem_cons.mp hmem with hhigh | hmem
  · exact digitChar_ne_slash _ hhigh.symm
  · exact digitChar_ne_slash _ (List.mem_singleton.mp hmem).symm

/-- The characters of a file name. -/
theorem previewFileName_toList (libs : PreviewLibraries) (spec : TexturePreviewSpec)
    (model : MinecraftTextureModel) : ∃ digits : List Char, '/' ∉ digits ∧
      (previewFileName libs spec model).toList = spec.engine.asStr.toList ++
        '-' :: ((modelAsStr model).toList ++ '-' :: (digits ++ ".png".toList)) := by
  refine ⟨(previewFingerprint libs spec model).toList, fun h => ?_, ?_⟩
  · rw [previewFingerprint, String.toList_ofList] at h
    exact slash_notMem_hexEncode _ (List.mem_of_mem_take h)
  · simp [previewFileName]

theorem slash_notMem_previewFileName (libs : PreviewLibraries) (spec : TexturePreviewSpec)
    (model : MinecraftTextureModel) : '/' ∉ (previewFileName libs spec model).toList := by
  obtain ⟨digits, hdigits, hname⟩ := previewFileName_toList libs spec model
  have hengine : '/' ∉ spec.engine.asStr.toList := by cases spec.engine <;> decide
  have hmodel : '/' ∉ (modelAsStr model).toList := by cases model <;> decide
  rw [hname]
  simp [hengine, hmodel, hdigits]

theorem previewFileName_ne_empty (libs : PreviewLibraries) (spec : TexturePreviewSpec)
    (model : MinecraftTextureModel) : previewFileName libs spec model ≠ "" := by
  intro h
  obtain ⟨digits, -, hname⟩ := previewFileName_toList libs spec model
  rw [h] at hname
  simp at hname

/-- The file name tells the models apart. -/
theorem previewFileName_inj {libs : PreviewLibraries} {spec : TexturePreviewSpec}
    {model model' : MinecraftTextureModel}
    (h : previewFileName libs spec model = previewFileName libs spec model') :
    model = model' := by
  obtain ⟨digits, -, hname⟩ := previewFileName_toList libs spec model
  obtain ⟨digits', -, hname'⟩ := previewFileName_toList libs spec model'
  have hchars := hname.symm.trans ((congrArg String.toList h).trans hname')
  have hrest := List.append_cancel_left hchars
  cases model <;> cases model' <;> first | rfl | simp [modelAsStr] at hrest

theorem isPrefixOf?_append (xs ys : List Char) : xs.isPrefixOf? (xs ++ ys) = some ys := by
  induction xs with
  | nil => rfl
  | cons x xs ih => simp [List.isPrefixOf?, ih]

theorem isValidTextureHash_iff {hash : String} : isValidTextureHash hash = true ↔
    hash.toList.length = 64 ∧ hash.toList.all isAsciiHexdigit = true := by
  simp [isValidTextureHash]

theorem slash_notMem_hash {hash : String} (h : isValidTextureHash hash = true) :
    '/' ∉ hash.toList := by
  intro hmem
  have hdigit := List.all_eq_true.mp (isValidTextureHash_iff.mp h).2 _ hmem
  revert hdigit
  decide

/-- **An address leads to the file it was made for.** -/
theorem routePreview_url {hash fileName : String} (hhash : isValidTextureHash hash = true)
    (hname : fileName ≠ "") (hslash : '/' ∉ fileName.toList) :
    routePreview (previewScope ++ hash ++ "/" ++ fileName) = some (hash, fileName) := by
  have hpath : (previewScope ++ hash ++ "/" ++ fileName).toList =
      previewScope.toList ++ (hash.toList ++ '/' :: fileName.toList) := by
    simp
  have hlength := (isValidTextureHash_iff.mp hhash).1
  have hempty : hash.toList.isEmpty = false := by
    cases hchars : hash.toList with
    | nil => simp [hchars] at hlength
    | cons c cs => rfl
  have hfile : fileName.toList.isEmpty = false := by
    cases hchars : fileName.toList with
    | nil => exact absurd (String.toList_eq_nil_iff.mp hchars) hname
    | cons c cs => rfl
  have hcontains : fileName.toList.contains '/' = false := by simpa using hslash
  rw [routePreview, hpath, isPrefixOf?_append]
  simp only [splitOnce_append (slash_notMem_hash hhash), hempty, hfile, hcontains]
  simp

/-! ## Served addresses -/

/-- What lies under the name of a preview was rendered from the image with that
hash, for the model of the name. -/
def PreviewsCached (libs : PreviewLibraries) (spec : TexturePreviewSpec)
    (s : TextureState) : Prop :=
  ∀ hash model source bytes, isValidTextureHash hash = true →
    s.object (objectStorageKey hash) = some source →
    s.object (previewStorageKey hash (previewFileName libs spec model)) = some bytes →
    libs.renderPreviewPng source model spec = .ok bytes

/-- The address of a row, requested, answers with a preview of its image for its
own model. -/
def PreviewServed (libs : PreviewLibraries) (find : FindByHash) (spec : TexturePreviewSpec)
    (s : TextureState) (t : MinecraftTexture) : Prop :=
  ∀ url, currentTexturePreviewUrl libs spec t.hash t.textureType t.textureModel = some url →
    ∃ source preview, s.object t.storageKey = some source ∧
      (requestPreview libs find spec s url).1 = .ok preview ∧
      libs.renderPreviewPng source t.textureModel spec = .ok preview.bytes

/-- The image of a row can be rendered. -/
def Renderable (libs : PreviewLibraries) (spec : TexturePreviewSpec) (s : TextureState)
    (t : MinecraftTexture) : Prop :=
  ∃ source bytes, s.object t.storageKey = some source ∧
    libs.renderPreviewPng source t.textureModel spec = .ok bytes

section Served

variable {libs : PreviewLibraries} {find : FindByHash} {spec : TexturePreviewSpec}
  {s : TextureState} {t : MinecraftTexture}

theorem url_eq_some (hskin : t.textureType = .skin) (hvalid : isValidTextureHash t.hash = true) :
    currentTexturePreviewUrl libs spec t.hash t.textureType t.textureModel =
      some (previewScope ++ t.hash ++ "/" ++ previewFileName libs spec t.textureModel) := by
  simp [currentTexturePreviewUrl, hskin, hvalid]

variable (libs find spec) in
/-- The row that the database picks decides. -/
theorem requestPreview_url (hvalid : isValidTextureHash t.hash = true) (ht : t ∈ s.textures.rows)
    (model : MinecraftTextureModel) : ∃ picked ∈ s.textures.rows, picked.hash = t.hash ∧
      find.pick s t.hash = some picked ∧
      requestPreview libs find spec s
        (previewScope ++ t.hash ++ "/" ++ previewFileName libs spec model) =
      match previewSourceFromTexture libs s picked with
      | .error e => (.error e, s)
      | .ok source =>
          if model ≠ source.textureModel then
            (.error (texturePreviewNotFound "texture preview variant"), s)
          else servePreview libs spec s source
            (previewStorageKey t.hash (previewFileName libs spec source.textureModel)) := by
  cases hpick : find.pick s t.hash with
  | none => exact absurd rfl (find.complete hpick ht)
  | some picked =>
      obtain ⟨hmem, hhash⟩ := find.found hpick
      refine ⟨picked, hmem, hhash, rfl, ?_⟩
      have hroute := routePreview_url hvalid (previewFileName_ne_empty libs spec model)
        (slash_notMem_previewFileName libs spec model)
      have hsource : resolvePreviewSource libs find s t.hash =
          previewSourceFromTexture libs s picked := by
        simp [resolvePreviewSource, textureByHash, hvalid, hpick]
      simp only [requestPreview, hroute, texturePreviewByHash, hvalid, hsource, Bool.not_true,
        Bool.false_eq_true, if_false]
      cases previewSourceFromTexture libs s picked with
      | error e => rfl
      | ok source =>
          by_cases hmodel : model = source.textureModel
          · simp [hmodel]
          · have hname : previewFileName libs spec model ≠
                previewFileName libs spec source.textureModel :=
              fun h => hmodel (previewFileName_inj h)
            simp [hmodel, hname]

/-- A preview shows its source, also when it comes from the cache. -/
theorem servePreview_shows (hcached : PreviewsCached libs spec s) {hash : String}
    (hvalid : isValidTextureHash hash = true) {source : PreviewSource}
    (hsource : s.object (objectStorageKey hash) = some source.bytes)
    {preview : TexturePreviewBytes}
    (h : (servePreview libs spec s source (previewStorageKey hash
      (previewFileName libs spec source.textureModel))).1 = .ok preview) :
    libs.renderPreviewPng source.bytes source.textureModel spec = .ok preview.bytes := by
  unfold servePreview at h
  split at h
  · next cached hobject =>
      cases h
      exact hcached hash source.textureModel source.bytes cached hvalid hsource hobject
  · split at h
    · cases h
    · next bytes hrendered =>
        cases h
        exact hrendered

/-- What can be rendered is served. -/
theorem servePreview_served {source : PreviewSource} {bytes : List UInt8}
    (h : libs.renderPreviewPng source.bytes source.textureModel spec = .ok bytes)
    (storageKey : String) :
    ∃ preview, (servePreview libs spec s source storageKey).1 = .ok preview := by
  unfold servePreview
  split
  · exact ⟨_, rfl⟩
  · rw [h]
    exact ⟨_, rfl⟩

/-- **The picked row decides**: the address of a row is served exactly if the
picked row is a skin with the same model, and the image can be rendered. -/
theorem previewServed_iff_pick
    (hkeyed : ∀ t ∈ s.textures.rows,
      isValidTextureHash t.hash = true ∧ t.storageKey = objectStorageKey t.hash)
    (hcached : PreviewsCached libs spec s) (ht : t ∈ s.textures.rows)
    (hskin : t.textureType = .skin) {picked : MinecraftTexture}
    (hpick : find.pick s t.hash = some picked) :
    PreviewServed libs find spec s t ↔
      (picked.textureType = .skin ∧ picked.textureModel = t.textureModel) ∧
        Renderable libs spec s t := by
  obtain ⟨hvalid, hkey⟩ := hkeyed t ht
  obtain ⟨picked', hmem, hhash, hpick', hrequest⟩ :=
    requestPreview_url libs find spec hvalid ht t.textureModel
  obtain rfl : picked' = picked := Option.some.inj (hpick'.symm.trans hpick)
  have hpickedKey : picked'.storageKey = t.storageKey := by
    rw [(hkeyed picked' hmem).2, hhash, hkey]
  simp only [PreviewServed, url_eq_some hskin hvalid, Option.some.injEq, forall_eq', hrequest]
  by_cases htype : picked'.textureType = .skin
  · cases hobject : s.object t.storageKey with
    | none =>
        simp [previewSourceFromTexture, htype, readObjectStorageKey, hpickedKey, hobject,
          Except.map, Renderable]
    | some source =>
        have hsource : s.object (objectStorageKey t.hash) = some source := hkey ▸ hobject
        by_cases hmodel : t.textureModel = picked'.textureModel
        · have hbytes : previewSourceFromTexture libs s picked' =
              .ok ⟨source, picked'.textureModel⟩ := by
            simp [previewSourceFromTexture, htype, readObjectStorageKey, hpickedKey, hobject,
              Except.map]
          simp only [hbytes, Renderable, hobject, htype, hmodel, ne_eq, not_true, if_false,
            true_and, Option.some.injEq]
          constructor
          · rintro ⟨source', preview, rfl, hserved, hrendered⟩
            exact ⟨source, preview.bytes, rfl, hrendered⟩
          · rintro ⟨source', bytes, rfl, hrendered⟩
            have hserved : ∃ preview, (servePreview libs spec s ⟨source, picked'.textureModel⟩
                (previewStorageKey t.hash (previewFileName libs spec
                  picked'.textureModel))).1 = .ok preview := servePreview_served hrendered _
            obtain ⟨preview, hserved⟩ := hserved
            exact ⟨source, preview, rfl, hserved,
              servePreview_shows hcached hvalid hsource hserved⟩
        · simp [previewSourceFromTexture, htype, readObjectStorageKey, hpickedKey, hobject,
            Except.map, hmodel, Ne.symm hmodel]
  · simp [previewSourceFromTexture, htype]

end Served

/-! ## The cache -/

/-- Previews lie beside the textures. -/
theorem not_textureKey (hash fileName : String) :
    isTextureBlobStorageKey (previewStorageKey hash fileName) = false := by
  obtain ⟨root, hroot, hslash, hlength⟩ : ∃ root : List Char,
      "texture-previews/".toList = root ++ ['/'] ∧ '/' ∉ root ∧ root.length ≠ 2 :=
    ⟨"texture-previews".toList, by decide +kernel, by decide +kernel, by decide +kernel⟩
  have hkey : ∃ rest, (previewStorageKey hash fileName).toList = root ++ '/' :: rest := by
    unfold previewStorageKey
    generalize "/" = slash
    exact ⟨hash.toList ++ (slash.toList ++ fileName.toList), by
      simp only [String.toList_append, hroot, List.append_assoc, List.cons_append,
        List.nil_append]⟩
  obtain ⟨rest, hkey⟩ := hkey
  rw [isTextureBlobStorageKey, hkey, splitOnce_append hslash]
  simp [hlength]

theorem objectKey_ne_previewKey {hash : String} (hvalid : isValidTextureHash hash = true)
    (hash' fileName : String) : objectStorageKey hash ≠ previewStorageKey hash' fileName := by
  intro h
  have htexture := isTextureBlobStorageKey_objectStorageKey hvalid
  rw [h, not_textureKey] at htexture
  cases htexture

theorem previewStorageKey_inj {hash hash' fileName fileName' : String}
    (hvalid : isValidTextureHash hash = true) (hvalid' : isValidTextureHash hash' = true)
    (h : previewStorageKey hash fileName = previewStorageKey hash' fileName') :
    hash = hash' ∧ fileName = fileName' := by
  have hchars := congrArg String.toList h
  unfold previewStorageKey at hchars
  generalize "texture-previews/" = root, "/" = slash at hchars
  simp only [String.toList_append, List.append_assoc, List.append_cancel_left_eq] at hchars
  have hlength : hash.toList.length = hash'.toList.length := by
    rw [(isValidTextureHash_iff.mp hvalid).1, (isValidTextureHash_iff.mp hvalid').1]
  obtain ⟨hhash, hname⟩ := List.append_inj hchars hlength
  rw [List.append_cancel_left_eq] at hname
  exact ⟨String.toList_injective hhash, String.toList_injective hname⟩

theorem mem_keys_of_object {s : TextureState} {storageKey : String} {bytes : List UInt8}
    (h : s.object storageKey = some bytes) : storageKey ∈ s.keys := by
  obtain ⟨o, hfind, -⟩ := Option.map_eq_some_iff.mp h
  have hkey := List.find?_some hfind
  exact mem_keys.mpr ⟨o, List.mem_of_find?_eq_some hfind, of_decide_eq_true hkey⟩

theorem object_putObject (s : TextureState) (storageKey key : String) (bytes : List UInt8) :
    (s.putObject storageKey bytes).object key =
      if key = storageKey then some bytes else s.object key := by
  by_cases hkey : key = storageKey
  · simp [TextureState.object, TextureState.putObject, hkey]
  · have hother : ((s.objects.filter fun o => o.1 ≠ storageKey).find? fun o => o.1 = key) =
        s.objects.find? fun o => o.1 = key := by
      rw [List.find?_filter]
      congr 1
      funext o
      by_cases ho : o.1 = key <;> simp [ho, hkey]
    simp only [TextureState.object, TextureState.putObject, if_neg hkey]
    rw [List.find?_cons_of_neg (by simpa using Ne.symm hkey), hother]

/-- Without previews nothing wrong is cached. -/
theorem previewsCached_of_textures (libs : PreviewLibraries) (spec : TexturePreviewSpec)
    {s : TextureState} (h : ∀ k ∈ s.keys, isTextureBlobStorageKey k = true) :
    PreviewsCached libs spec s := by
  intro hash model source bytes _ _ hobject
  have htexture := h _ (mem_keys_of_object hobject)
  rw [not_textureKey] at htexture
  cases htexture

theorem objectStorageKey_inj {hash hash' : String} (hvalid : isValidTextureHash hash = true)
    (hvalid' : isValidTextureHash hash' = true)
    (h : objectStorageKey hash = objectStorageKey hash') : hash = hash' := by
  have hchars := congrArg String.toList h
  unfold objectStorageKey at hchars
  generalize "/" = slash, ".png" = suffix at hchars
  simp only [String.toList_append, String.toList_ofList, List.append_assoc] at hchars
  have hlength : (hash.toList.take 2).length = (hash'.toList.take 2).length := by
    simp [(isValidTextureHash_iff.mp hvalid).1, (isValidTextureHash_iff.mp hvalid').1]
  have hrest := (List.append_inj hchars hlength).2
  rw [List.append_cancel_left_eq, List.append_cancel_right_eq] at hrest
  exact String.toList_injective hrest

/-- The image that is stored under a hash is the one that is shown. -/
theorem source_of_object {libs : PreviewLibraries} {find : FindByHash} {s : TextureState}
    (hs : Tidy [] s) {hash : String} (hvalid : isValidTextureHash hash = true)
    {source : PreviewSource} (hresolve : resolvePreviewSource libs find s hash = .ok source)
    {bytes : List UInt8} (hobject : s.object (objectStorageKey hash) = some bytes) :
    bytes = source.bytes := by
  cases hpick : find.pick s hash with
  | some t =>
      obtain ⟨ht, hhash⟩ := find.found hpick
      have hkey : t.storageKey = objectStorageKey hash := hhash ▸ (hs.keyed t ht).2
      simp only [resolvePreviewSource, textureByHash, hvalid, hpick, Bool.not_true,
        Bool.false_eq_true, if_false, previewSourceFromTexture] at hresolve
      split at hresolve
      · cases hresolve
      · simp only [readObjectStorageKey, hkey, hobject, Except.map] at hresolve
        cases hresolve
        rfl
  | none =>
      -- without a row there is no object either
      have hkey := mem_keys_of_object hobject
      have hreferenced : s.references (objectStorageKey hash) = true := by
        simpa [isTextureBlobStorageKey_objectStorageKey hvalid] using hs.no_orphans hkey
      obtain ⟨t, ht, hnamed⟩ := references_eq_true.mp hreferenced
      obtain ⟨hvalid', hkey'⟩ := hs.keyed t ht
      exact absurd (objectStorageKey_inj hvalid' hvalid (hkey'.symm.trans hnamed))
        (find.complete hpick ht)

/-- **Serving previews keeps the cache right.** -/
theorem previewsCached_kept {libs : PreviewLibraries} {find : FindByHash}
    {spec : TexturePreviewSpec} {s : TextureState} (hs : Tidy [] s)
    (hcached : PreviewsCached libs spec s) (hash fileName : String) :
    PreviewsCached libs spec (texturePreviewByHash libs find spec s hash fileName).2 := by
  unfold texturePreviewByHash
  split
  · exact hcached
  next hvalid =>
  have hvalid : isValidTextureHash hash = true := by simpa using hvalid
  cases hresolve : resolvePreviewSource libs find s hash with
  | error e => exact hcached
  | ok source =>
      simp only
      split
      · exact hcached
      unfold servePreview
      split
      · exact hcached
      split
      · exact hcached
      next bytes hrendered =>
      intro hash' model image preview hvalid' himage hpreview
      rw [object_putObject, if_neg (objectKey_ne_previewKey hvalid' _ _)] at himage
      rw [object_putObject] at hpreview
      split at hpreview
      · next hkey =>
          obtain ⟨rfl, hname⟩ := previewStorageKey_inj hvalid' hvalid hkey
          cases hpreview
          rw [source_of_object hs hvalid hresolve himage, previewFileName_inj hname]
          exact hrendered
      · exact hcached hash' model image preview hvalid' himage hpreview

/-! ## Whatever the database picks -/

/-- A database that takes the first row in the order of the table. -/
def firstRow : FindByHash where
  pick s hash := s.textures.find? fun t => t.hash = hash
  found h := by
    obtain ⟨hmem, hhash⟩ := Table.of_find? h
    exact ⟨hmem, of_decide_eq_true hhash⟩
  complete h hmem := by
    have hne := Table.find?_eq_none.mp h _ hmem
    simpa using hne

/-- A database that takes `t` whenever it may. -/
def FindByHash.prefer (t : MinecraftTexture) : FindByHash where
  pick s hash := if t ∈ s.textures.rows ∧ t.hash = hash then some t else firstRow.pick s hash
  found {s hash t'} h := by
    split at h
    · next hpicked =>
        cases h
        exact hpicked
    · exact firstRow.found h
  complete {s hash t'} h hmem := by
    split at h
    · cases h
    · exact firstRow.complete h hmem

/-- **Every address is served, whatever the database picks, exactly if all rows
with the hash are skins with the model of the row**, and the image can be
rendered. -/
theorem previews_served_iff (libs : PreviewLibraries) (spec : TexturePreviewSpec)
    {s : TextureState}
    (hkeyed : ∀ t ∈ s.textures.rows,
      isValidTextureHash t.hash = true ∧ t.storageKey = objectStorageKey t.hash)
    (hcached : PreviewsCached libs spec s) {t : MinecraftTexture} (ht : t ∈ s.textures.rows)
    (hskin : t.textureType = .skin) :
    (∀ find, PreviewServed libs find spec s t) ↔
      (∀ t' ∈ s.textures.rows, t'.hash = t.hash →
        t'.textureType = .skin ∧ t'.textureModel = t.textureModel) ∧
      Renderable libs spec s t := by
  constructor
  · intro hserved
    have hpicked : ∀ t' ∈ s.textures.rows, t'.hash = t.hash →
        (t'.textureType = .skin ∧ t'.textureModel = t.textureModel) ∧
          Renderable libs spec s t := by
      intro t' ht' hhash
      have hpick : (FindByHash.prefer t').pick s t.hash = some t' := if_pos ⟨ht', hhash⟩
      exact (previewServed_iff_pick hkeyed hcached ht hskin hpick).mp (hserved _)
    exact ⟨fun t' ht' hhash => (hpicked t' ht' hhash).1, (hpicked t ht rfl).2⟩
  · rintro ⟨hsame, hrenderable⟩ find
    obtain ⟨picked, hmem, hhash, hpick, -⟩ :=
      requestPreview_url libs find spec (hkeyed t ht).1 ht t.textureModel
    exact (previewServed_iff_pick hkeyed hcached ht hskin hpick).mpr
      ⟨hsame picked hmem hhash, hrenderable⟩

/-! ## Two models of one image -/

/-- Libraries that mark a preview with the model. -/
def markingLibraries : PreviewLibraries where
  serialize _ := none
  debugSpec _ := "spec"
  sha256 bytes := bytes
  renderPreviewPng bytes model _ :=
    .ok ((match model with | .default => 0 | .slim => 1) :: bytes)
  missingObject storageKey := .internal storageKey
  steveBytes := []
  alexBytes := []

/-- The default configuration. -/
def defaultSpec : TexturePreviewSpec where
  engine := .skin3d
  profile := .default
  width := 430
  height := 430
  background := .transparent
  showOuterLayer := true
  scale := 11.5
  pitch := 30
  frontYaw := -45
  backYaw := 135
  spacing3d := 35
  xOffset := 0
  yOffset := -24
  centerY := 0.56
  supersampling := 2
  padding2d := 24
  spacing2d := 35

/-- Bob uploads one image for both models. -/
def bothModels : List TextureCall :=
  [.storeWardrobe openPolicy 2 .skin .default .publicItem [1, 2],
    .storeWardrobe openPolicy 2 .skin .slim .publicItem [1, 2]]

/-- The address of the second skin is refused: the lookup finds the first one. -/
theorem second_model_refused :
    let s := serve textureMachine (TextureCall.body twoImages) twoPlayers bothModels
    ∃ t ∈ s.textures.rows, t.textureType = .skin ∧
      (currentTexturePreviewUrl markingLibraries defaultSpec t.hash t.textureType
        t.textureModel).map
        (fun url => (requestPreview markingLibraries firstRow defaultSpec s url).1) =
          some (.error (texturePreviewNotFound "texture preview variant")) ∧
      ¬ PreviewServed markingLibraries firstRow defaultSpec s t := by
  have hrefused : ∃ t ∈ (serve textureMachine (TextureCall.body twoImages) twoPlayers
      bothModels).textures.rows, t.textureType = .skin ∧
      (currentTexturePreviewUrl markingLibraries defaultSpec t.hash t.textureType
        t.textureModel).map
        (fun url => (requestPreview markingLibraries firstRow defaultSpec
          (serve textureMachine (TextureCall.body twoImages) twoPlayers bothModels) url).1) =
          some (.error (texturePreviewNotFound "texture preview variant")) := by
    decide +kernel
  obtain ⟨t, ht, hskin, hanswer⟩ := hrefused
  refine ⟨t, ht, hskin, hanswer, fun hserved => ?_⟩
  obtain ⟨url, hurl, herror⟩ := Option.map_eq_some_iff.mp hanswer
  obtain ⟨source, preview, -, hok, -⟩ := hserved url hurl
  rw [herror] at hok
  cases hok

/-- Bob and Eve upload the same image for the same model. -/
def sharedModel : List TextureCall :=
  [.storeWardrobe openPolicy 2 .skin .slim .publicItem [1, 2],
    .storeWardrobe openPolicy 3 .skin .slim .publicItem [1, 2]]

/-- Both addresses are served, whatever the database picks. -/
theorem shared_model_served :
    let s := serve textureMachine (TextureCall.body twoImages) twoPlayers sharedModel
    s.textures.rows.map MinecraftTexture.id = [1, 2] ∧
      ∀ t ∈ s.textures.rows, ∀ find,
        PreviewServed markingLibraries find defaultSpec s t := by
  have hkeyed : ∀ t ∈ (serve textureMachine (TextureCall.body twoImages) twoPlayers
      sharedModel).textures.rows,
        isValidTextureHash t.hash = true ∧ t.storageKey = objectStorageKey t.hash := by
    decide +kernel
  have hkeys : ∀ k ∈ (serve textureMachine (TextureCall.body twoImages) twoPlayers
      sharedModel).keys, isTextureBlobStorageKey k = true := by
    decide +kernel
  have hsame : ∀ t ∈ (serve textureMachine (TextureCall.body twoImages) twoPlayers
      sharedModel).textures.rows, t.textureType = .skin ∧ t.textureModel = .slim ∧
        ((serve textureMachine (TextureCall.body twoImages) twoPlayers
          sharedModel).object t.storageKey).isSome = true := by
    decide +kernel
  refine ⟨by decide +kernel, fun t ht => ?_⟩
  obtain ⟨hskin, hslim, hstored⟩ := hsame t ht
  refine (previews_served_iff markingLibraries defaultSpec hkeyed
    (previewsCached_of_textures _ _ hkeys) ht hskin).mpr ⟨fun t' ht' _ => ?_, ?_⟩
  · exact ⟨(hsame t' ht').1, (hsame t' ht').2.1.trans hslim.symm⟩
  · obtain ⟨source, hsource⟩ := Option.isSome_iff_exists.mp hstored
    exact ⟨source, _, hsource, rfl⟩

end AsterYggdrasil.Textures
