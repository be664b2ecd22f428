import Codon.Grpc.Endpoint

/-!
# Credentials and arguments of gRPC endpoints

`create_channel_creds` and what is built on it: `init_grpc_endpoint` and the builders of
static and dynamic endpoints, in a build with `FSW_BORINGSSL_ENABLED`. (Without it the braces
of `create_channel_creds` do not match: the one that closes its last block follows `#endif`.)

Not in the source tree are the functions that read files, the command line, the service
directory, the key methods of the HSMs and the slate elements of dynamic endpoints. What they
answer is an argument.
-/

namespace Codon.Grpc

/-- `hsm_type_t`. -/
inductive HsmType where
  | undefined
  | stsafe
  | trustzone
  | cmrt
deriving DecidableEq

/-- `CurveId`, as far as the sources tell curves apart. -/
inductive CurveId where
  | nistP256
  | nistP384
  | other
deriving DecidableEq

/-- `GrpcAuthConfig`, over the type `K` of key methods. Of the `stsafe_config`, only the curve is
read. -/
structure GrpcAuthConfig (K : Type) where
  keyHandler : Option K := none
  hsmCurveName : String := ""
  caCertsPath : String := ""
  clientCertPath : String := ""
  clientKeyPath : String := ""
  requireSsl : Bool := true
  useClientAuth : Bool := true
  allowBogusIdentity : Bool := false
  usingBogusIdentity : Bool := false
  useHsm : Bool := false
  hsmType : HsmType := .undefined
  stsafeCipherPath : String := ""
  curve : CurveId := .other

/-- `grpc::SslCredentialsOptions`. -/
structure SslCredentialsOptions where
  pemRootCerts : String := ""
  pemCertChain : String := ""
  pemPrivateKey : String := ""
deriving DecidableEq

/-- `grpc::ChannelCredentials`. -/
inductive ChannelCredentials where
  | insecure
  | ssl (opts : SslCredentialsOptions)
deriving DecidableEq

/-- A setting of `grpc::ChannelArguments`. -/
inductive ChannelArg (K : Type) where
  | defaultAuthority (authority : String)
  | sslTargetNameOverride (name : String)
  | maxReceiveMessageSize (size : Int)
  | maxSendMessageSize (size : Int)
  | customKey (keyHandler : K)
  | customHsmCurveName (name : String)

/-- `GrpcEndpoint`. The arguments are those that have been set, in order. -/
structure GrpcEndpoint (K : Type) where
  grpcEndpoint : String := ""
  grpcAuthority : String := ""
  channelArgs : List (ChannelArg K) := []
  credentials : Option ChannelCredentials := none

/-- A service of the service directory. -/
structure Service where
  dnsName : String
  hostName : String
  port : Nat

/-- What the functions read and create outside. -/
structure AuthOutside (K : Type) where
  readStr : String → Option String
  readStrBinary : String → Option (List UInt8)
  createExternalStsafeMethod : String → Option (K × CurveId)
  createExternalTrustzoneMethod : List UInt8 → Option K
  createExternalCmrtMethod : Option K
  getString : String → String
  lookup : String → Option Service

variable {K : Type}

/-- `create_channel_args`. -/
def createChannelArgs (auth : GrpcAuthConfig K) (endpoint : GrpcEndpoint K) : GrpcEndpoint K :=
  { endpoint with
    channelArgs := endpoint.channelArgs ++
      (if endpoint.grpcAuthority ≠ "" then
        [.defaultAuthority endpoint.grpcAuthority, .sslTargetNameOverride endpoint.grpcAuthority]
      else []) ++
      [.maxReceiveMessageSize (-1), .maxSendMessageSize (-1)] ++
      (auth.keyHandler.toList.map .customKey) ++
      (if auth.hsmCurveName ≠ "" then [.customHsmCurveName auth.hsmCurveName] else []) }

/-- `create_auth_config`. -/
def createAuthConfig (o : AuthOutside K) (trustzoneAvailable : Bool) (identityProvider : String)
    (auth : GrpcAuthConfig K) : GrpcAuthConfig K :=
  let auth := { auth with caCertsPath := o.getString "ca_certs" }
  if identityProvider = "stsafe" then
    { auth with
      useHsm := true
      hsmType := .stsafe
      clientCertPath := o.getString "hsm_client_cert"
      stsafeCipherPath := o.getString "stsafe_cipher" }
  else if identityProvider = "trustzone" ∧ trustzoneAvailable then
    { auth with
      useHsm := true
      hsmType := .trustzone
      clientCertPath := o.getString "hsm_client_cert"
      clientKeyPath := o.getString "hsm_client_key" }
  else
    { auth with
      clientCertPath := o.getString "client_cert"
      clientKeyPath := o.getString "client_key" }

/-- The name that `EC_curve_nid2nist` gives the curve of the key, if it is one of two. -/
def hsmCurveNameFor (auth : GrpcAuthConfig K) : GrpcAuthConfig K :=
  match auth.curve with
  | .nistP256 => { auth with hsmCurveName := "P-256" }
  | .nistP384 => { auth with hsmCurveName := "P-384" }
  | .other => auth

/-- The switch over the HSM types. A key handler that is there is kept. -/
def useHsmKey (o : AuthOutside K) (auth : GrpcAuthConfig K) : Option (GrpcAuthConfig K) :=
  match auth.hsmType with
  | .stsafe => do
      let stsafeCipher ← o.readStr auth.stsafeCipherPath
      if auth.keyHandler.isSome then return hsmCurveNameFor auth
      else
        let (keyHandler, curve) ← o.createExternalStsafeMethod stsafeCipher
        return hsmCurveNameFor { auth with keyHandler := some keyHandler, curve }
  | .trustzone => do
      let wrappedKey ← o.readStrBinary auth.clientKeyPath
      if auth.keyHandler.isSome then return auth
      else
        let keyHandler ← o.createExternalTrustzoneMethod wrappedKey
        return { auth with keyHandler := some keyHandler }
  | .cmrt =>
      if auth.keyHandler.isSome then some auth
      else do
        let keyHandler ← o.createExternalCmrtMethod
        return { auth with keyHandler := some keyHandler }
  | .undefined => none

/-- The client's certificate and key, where client authentication is used. -/
def clientIdentity (o : AuthOutside K) (auth : GrpcAuthConfig K) (opts : SslCredentialsOptions) :
    Option (SslCredentialsOptions × GrpcAuthConfig K) :=
  match o.readStr auth.clientCertPath with
  | none =>
      if auth.allowBogusIdentity then
        some ({ opts with pemCertChain := "IMAGINARY_IDENTITY!!!" },
          { auth with usingBogusIdentity := true })
      else none
  | some pemCertChain =>
      let opts := { opts with pemCertChain }
      if auth.useHsm then
        (useHsmKey o auth).map fun auth => ({ opts with pemPrivateKey := "ignore" }, auth)
      else
        (o.readStr auth.clientKeyPath).map fun pemPrivateKey => ({ opts with pemPrivateKey }, auth)

/-- `create_channel_creds`, or nothing where it fails. The credentials are only replaced in the
block of client authentication. -/
def createChannelCreds (o : AuthOutside K) (auth : GrpcAuthConfig K) (endpoint : GrpcEndpoint K) :
    Option (GrpcAuthConfig K × GrpcEndpoint K) :=
  let endpoint := { endpoint with credentials := some .insecure }
  if !auth.requireSsl then some (auth, endpoint)
  else
    match o.readStr auth.caCertsPath with
    | none => none
    | some pemRootCerts =>
        if auth.useClientAuth then
          (clientIdentity o auth { pemRootCerts }).map fun (opts, auth) =>
            (auth, { endpoint with credentials := some (.ssl opts) })
        else some (auth, endpoint)

/-- `init_grpc_endpoint`. -/
def initGrpcEndpoint (o : AuthOutside K) (auth : GrpcAuthConfig K) (endpoint : GrpcEndpoint K) :
    Option (GrpcAuthConfig K × GrpcEndpoint K) :=
  (createChannelCreds o auth endpoint).map fun (auth, endpoint) =>
    (auth, createChannelArgs auth endpoint)

/-! ## Providers with credentials -/

/-- A provider with the authority, the arguments and the credentials of its endpoint. -/
structure AuthenticatedProvider (P K : Type) where
  provider : P
  grpcAuthority : String
  channelArgs : List (ChannelArg K)
  credentials : Option ChannelCredentials

/-- What `AuthenticatedProvider` adds to a provider never changes. -/
instance {P E : Type} [GrpcEndpointProvider P E] :
    GrpcEndpointProvider (AuthenticatedProvider P K) E where
  endpoint p hadFailure e :=
    let (grpcEndpoint, provider) := GrpcEndpointProvider.endpoint p.provider hadFailure e
    (grpcEndpoint, { p with provider })

/-- A provider with the credentials of an endpoint. -/
def GrpcEndpoint.provide {P : Type} (endpoint : GrpcEndpoint K) (provider : P) :
    AuthenticatedProvider P K where
  provider
  grpcAuthority := endpoint.grpcAuthority
  channelArgs := endpoint.channelArgs
  credentials := endpoint.credentials

/-- `StaticGrpcEndpoint::create`. -/
def createStatic (endpoint : GrpcEndpoint K) : AuthenticatedProvider StaticGrpcEndpoint K :=
  endpoint.provide ⟨endpoint.grpcEndpoint⟩

/-- Both overloads of `build_static_grpc_endpoint`: `host` is that of the service, or it is given.
-/
def buildStaticWith (o : AuthOutside K) (trustzoneAvailable : Bool)
    (identityProvider service : String) (host : Service → String) (auth : GrpcAuthConfig K) :
    Option (AuthenticatedProvider StaticGrpcEndpoint K × GrpcAuthConfig K) := do
  let auth := createAuthConfig o trustzoneAvailable identityProvider auth
  if service = "" then none
  else
    let grpcService ← o.lookup service
    let grpcDest := host grpcService ++ ":" ++ toString grpcService.port
    let (auth, endpoint) ← initGrpcEndpoint o auth
      { grpcEndpoint := grpcDest, grpcAuthority := grpcService.hostName }
    return (createStatic endpoint, auth)

/-- `build_static_grpc_endpoint`. -/
def buildStaticGrpcEndpoint (o : AuthOutside K) (trustzoneAvailable : Bool)
    (identityProvider service : String) (auth : GrpcAuthConfig K) :
    Option (AuthenticatedProvider StaticGrpcEndpoint K × GrpcAuthConfig K) :=
  buildStaticWith o trustzoneAvailable identityProvider service Service.dnsName auth

/-- `build_static_grpc_endpoint` with an address in place of the service's name. -/
def buildStaticGrpcEndpointAt (o : AuthOutside K) (trustzoneAvailable : Bool)
    (identityProvider service ipAddressOverride : String) (auth : GrpcAuthConfig K) :
    Option (AuthenticatedProvider StaticGrpcEndpoint K × GrpcAuthConfig K) :=
  buildStaticWith o trustzoneAvailable identityProvider service (fun _ => ipAddressOverride) auth

/-- `build_dynamic_grpc_endpoint`. `init` is the new provider, if its slate elements could be
created and bound with the port of the service. -/
def buildDynamicGrpcEndpoint (o : AuthOutside K) (trustzoneAvailable : Bool)
    (identityProvider serviceName : String) (init : Nat → Option DynamicGrpcEndpoint)
    (auth : GrpcAuthConfig K) :
    Option (AuthenticatedProvider DynamicGrpcEndpoint K × GrpcAuthConfig K) := do
  let auth := createAuthConfig o trustzoneAvailable identityProvider auth
  if serviceName = "" then none
  else
    let grpcService ← o.lookup serviceName
    let (auth, endpoint) ← initGrpcEndpoint o auth { grpcAuthority := grpcService.hostName }
    let provider ← init grpcService.port
    return (endpoint.provide provider, auth)

end Codon.Grpc
