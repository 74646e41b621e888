import PumpfunSdk.Codec.Base64

/-! `ipfs/mod.rs`: the token metadata a token is created with. Pinata's answers are parameters
of the model. The upload of a local file posts exactly the bytes read from it, and a metadata
that comes back has as image the URL Pinata gave for those bytes. -/

namespace PumpfunSdk.Ipfs

structure TokenMetadata where
  name : String
  symbol : String
  description : String
  image : String
  showName : Bool
  createdOn : String
  twitter : Option String
  telegram : Option String
  website : Option String
  deriving DecidableEq, Repr

structure TokenMetadataIPFS where
  metadata : TokenMetadata
  metadataUri : String
  deriving DecidableEq, Repr

structure CreateTokenMetadata where
  name : String
  symbol : String
  description : String
  file : String
  twitter : Option String
  telegram : Option String
  website : Option String
  metadataUri : Option String
  deriving DecidableEq, Repr

/-- What Pinata answers to a post that went through: a success status, with the body's JSON
(the parse error's text, or the `"IpfsHash"` field if it is a string), or another status,
with the body's text. -/
inductive PinataReply where
  | success (ipfsHash : Except String (Option String))
  | failure (text : Except String String)
  deriving DecidableEq, Repr

def ipfsUrl (ipfsHash : String) : String := "https://ipfs.io/ipfs/" ++ ipfsHash

def fileToBase64 (read : Except String (List UInt8)) : Except String String :=
  Base64.encode <$> read

/-- What `upload_base64_file` makes of Pinata's answer to the post (`Err` when the client cannot
be built or the request fails). A success without an `"IpfsHash"` text panics at `unwrap`. -/
def pinataResult : Except String PinataReply → Outcome (Except String String)
  | .error e => pure (.error e)
  | .ok (.success (.error e)) => pure (.error ("Failed to parse JSON: " ++ e))
  | .ok (.success (.ok ipfsHash)) => (fun hash => .ok (ipfsUrl hash)) <$> expect ipfsHash
  | .ok (.failure (.error e)) => pure (.error e)
  | .ok (.failure (.ok errorText)) => pure (.error ("Failed to upload file to IPFS: " ++ errorText))

def uploadBase64File (base64String : String) (pinFile : List UInt8 → Except String PinataReply) :
    Outcome (Except String String) :=
  match Base64.decode base64String with
  | .error e => pure (.error e.toString)
  | .ok decodedBytes => pinataResult (pinFile decodedBytes)

def tokenMetadata (metadata : CreateTokenMetadata) (image : String) : TokenMetadata where
  name := metadata.name
  symbol := metadata.symbol
  description := metadata.description
  image := image
  showName := true
  createdOn := metadata.website.getD "https://pump.fun"
  twitter := metadata.twitter
  telegram := metadata.telegram
  website := metadata.website

def createTokenMetadata (metadata : CreateTokenMetadata) (read : Except String (List UInt8))
    (pinFile : List UInt8 → Except String PinataReply)
    (pinJson : TokenMetadata → Except String PinataReply) :
    Outcome (Except String TokenMetadataIPFS) := do
  let image ← if startsWith metadata.file "http" ∨ metadata.metadataUri.isSome then
      pure (.ok metadata.file)
    else
      match fileToBase64 read with
      | .error e => pure (.error e)
      | .ok base64String => uploadBase64File base64String pinFile
  match image with
  | .error e => pure (.error e)
  | .ok ipfsUrlOfImage =>
    match metadata.metadataUri with
    | some uri => pure (.ok ⟨tokenMetadata metadata ipfsUrlOfImage, uri⟩)
    | none =>
      match pinJson (tokenMetadata metadata ipfsUrlOfImage) with
      | .error e => pure (.error e)
      | .ok (.success (.error e)) => pure (.error e)
      | .ok (.success (.ok ipfsHash)) =>
        (fun hash => .ok ⟨tokenMetadata metadata ipfsUrlOfImage, ipfsUrl hash⟩) <$> expect ipfsHash
      | .ok (.failure _) => pure (.error "Failed to create token metadata")

theorem create_token_metadata_uploads_file_bytes (metadata : CreateTokenMetadata)
    (bytes : List UInt8) (pinFile : List UInt8 → Except String PinataReply)
    (pinJson : TokenMetadata → Except String PinataReply)
    (onDisk : ¬ startsWith metadata.file "http") (noUri : metadata.metadataUri = none) :
    (∃ base64String, fileToBase64 (.ok bytes) = .ok base64String ∧
      uploadBase64File base64String pinFile = pinataResult (pinFile bytes)) ∧
    ∀ result, createTokenMetadata metadata (.ok bytes) pinFile pinJson = .ret (.ok result) →
      pinataResult (pinFile bytes) = .ret (.ok result.metadata.image) := by
  have upload : uploadBase64File (Base64.encode bytes) pinFile = pinataResult (pinFile bytes) := by
    simp only [uploadBase64File, Base64.decode_encode]
  have encoded : fileToBase64 (.ok bytes) = .ok (Base64.encode bytes) := rfl
  refine ⟨⟨_, encoded, upload⟩, fun result created => ?_⟩
  simp only [createTokenMetadata, onDisk, noUri, Option.isSome_none, Bool.false_eq_true, or_self,
    if_false, encoded, upload] at created
  rcases pinned : pinataResult (pinFile bytes) with (e | image) | _ <;>
    simp only [pinned, Outcome.pure_eq, Outcome.panic_bind, Outcome.ret_bind] at created
  · cases created
  · rcases json : pinJson (tokenMetadata metadata image) with e | ((e | ipfsHash) | text) <;>
      simp only [json, Outcome.pure_eq] at created <;> try cases created
    cases hash : expect ipfsHash <;>
      simp only [hash, Outcome.map_ret, Outcome.map_panic] at created <;> cases created
    rfl
  · cases created

theorem create_token_metadata_uploads_file_bytes_pinned :
    let metadata : CreateTokenMetadata := ⟨"Token", "TKN", "", "./logo.png", none, none, none, none⟩
    let pinned : List UInt8 → Except String PinataReply := fun bytes =>
      if bytes = [137, 80, 78, 71] then .ok (.success (.ok (some "QmLogo")))
      else .error "unexpected"
    let pinJson : TokenMetadata → Except String PinataReply := fun _ =>
      .ok (.success (.ok (some "QmMeta")))
    ¬ startsWith metadata.file "http" ∧ metadata.metadataUri = none ∧
      ((∃ base64String, fileToBase64 (.ok [137, 80, 78, 71]) = .ok base64String ∧
        uploadBase64File base64String pinned = pinataResult (pinned [137, 80, 78, 71])) ∧
      ∀ result, createTokenMetadata metadata (.ok [137, 80, 78, 71]) pinned pinJson =
          .ret (.ok result) →
        pinataResult (pinned [137, 80, 78, 71]) = .ret (.ok result.metadata.image)) :=
  ⟨by decide, rfl, create_token_metadata_uploads_file_bytes _ _ _ _ (by decide) rfl⟩

end PumpfunSdk.Ipfs
