import Codon.Grpc.Client
import Codon.Grpc.Credentials

/-!
# Channels with SSL

A client has a channel created with the credentials of its provider whenever the stub factory
creates a stub, and the provider never changes them. So all channels use SSL if the endpoint
was given SSL credentials. `create_channel_creds` only gives them to a client that
authenticates itself: if SSL is required without client authentication, it reports success
with insecure credentials (`ssl_iff`).
-/

namespace Codon.Grpc

open Codon.Library

variable {K : Type}

/-- `grpc::Channel`. -/
structure Channel (K : Type) where
  target : String
  credentials : Option ChannelCredentials
  channelArgs : List (ChannelArg K)

/-- Whether credentials are SSL credentials. -/
def UsesSsl (credentials : Option ChannelCredentials) : Prop :=
  ∃ opts, credentials = some (.ssl opts)

section Sessions

variable {P C E : Type} [GrpcEndpointProvider P E]

/-- The channel that `NewStub` creates, if it creates a stub. -/
def newChannel (factory : GrpcStubFactory) (p : AuthenticatedProvider P K) (force : Bool) (e : E) :
    List (Channel K) :=
  if factory.Recreates p force e then
    let endpoint := GrpcEndpointProvider.endpoint p force e
    [⟨endpoint.1, endpoint.2.credentials, endpoint.2.channelArgs⟩]
  else []

/-- A client, and the channels that have been created for it. -/
structure ChannelSession (P K C : Type) where
  client : GrpcClient (AuthenticatedProvider P K) C
  channels : List (Channel K)

namespace ChannelSession

/-- A client that has been created. -/
def start (p : AuthenticatedProvider P K) (maxOutstandingCalls : UInt64) :
    ChannelSession P K C :=
  ⟨.create p maxOutstandingCalls, []⟩

/-- The channels that an event of the client creates: a call has a stub created if there is none,
and a response has it created anew if it failed or the endpoint has changed. -/
def created (client : GrpcClient (AuthenticatedProvider P K) C) : Event C E → List (Channel K)
  | .async a =>
      if a.callback.isSome ∧ client.stub = none then
        newChannel client.stubFactory client.endpointProvider true a.reconnection.surroundings
      else []
  | .complete tag done =>
      if (client.outstandingCalls.lookup tag).isSome then
        newChannel client.stubFactory client.endpointProvider (done.status ≠ .ok)
          done.reconnection.surroundings
      else []

/-- One event. -/
def step (s : ChannelSession P K C) (event : Event C E) : ChannelSession P K C :=
  ⟨s.client.step event, s.channels ++ created s.client event⟩

end ChannelSession

variable {s : ChannelSession P K C} {p : AuthenticatedProvider P K}

/-- A new channel has the credentials of its provider. -/
theorem new_channel_credentials {factory : GrpcStubFactory} {force : Bool} {e : E}
    {channel : Channel K} (h : channel ∈ newChannel factory p force e) :
    channel.credentials = p.credentials := by
  unfold newChannel at h
  split at h
  · obtain rfl := List.mem_singleton.1 h
    rfl
  · cases h

/-- A channel is created exactly when the factory counts a new stub. -/
theorem new_channel_length {factory : GrpcStubFactory} {stub : Option Nat} {force : Bool}
    {r : Reconnection E} :
    (factory.newStub p stub force r).stubFactory.created =
      factory.created + (newChannel factory p force r.surroundings).length := by
  unfold newChannel
  by_cases hrecreates : factory.Recreates p force r.surroundings
  · rw [GrpcStubFactory.new_stub_of_recreates hrecreates, if_pos hrecreates]
    rfl
  · rw [GrpcStubFactory.new_stub_of_not_recreates hrecreates, if_neg hrecreates]
    rfl

namespace ChannelSession

/-- The provider keeps its credentials, all channels have them, and there is a channel for every
stub that was created. -/
structure Sound (credentials : Option ChannelCredentials) (s : ChannelSession P K C) : Prop where
  provider : s.client.endpointProvider.credentials = credentials
  channels : ∀ channel ∈ s.channels, channel.credentials = credentials
  complete : s.channels.length = s.client.stubFactory.created

/-- What an event does to the provider and the factory: they are those that `NewStub` leaves, or
those that were there. -/
theorem step_cases (client : GrpcClient (AuthenticatedProvider P K) C) (event : Event C E) :
    (∃ force r, created client event =
        newChannel client.stubFactory client.endpointProvider force r.surroundings ∧
      (client.step event).endpointProvider = (client.stubFactory.newStub client.endpointProvider
        client.stub force r).endpointProvider ∧
      (client.step event).stubFactory = (client.stubFactory.newStub client.endpointProvider
        client.stub force r).stubFactory) ∨
    created client event = [] ∧
      (client.step event).endpointProvider = client.endpointProvider ∧
      (client.step event).stubFactory = client.stubFactory := by
  cases event with
  | async a =>
      simp only [created, GrpcClient.step]
      cases hcallback : a.callback with
      | none =>
          rw [GrpcClient.async_no_callback hcallback]
          exact .inr ⟨if_neg (by simp), rfl, rfl⟩
      | some callback =>
          have houtcome := client.async_outcome hcallback
          have hprovided :
              (client.async a).client.endpointProvider =
                  (client.provideStub a.reconnection).endpointProvider ∧
                (client.async a).client.stubFactory =
                  (client.provideStub a.reconnection).stubFactory := by
            generalize client.async a = result at houtcome ⊢
            cases houtcome <;> exact ⟨rfl, rfl⟩
          simp only [hprovided.1, hprovided.2, GrpcClient.provideStub]
          by_cases hstub : client.stub = none
          · rw [if_pos hstub, if_pos ⟨rfl, hstub⟩]
            exact .inl ⟨true, a.reconnection, rfl, rfl, rfl⟩
          · rw [if_neg hstub, if_neg fun h => hstub h.2]
            exact .inr ⟨rfl, rfl, rfl⟩
  | complete tag done =>
      simp only [created, GrpcClient.step]
      by_cases hmem : tag ∈ client.outstandingCalls
      · rw [if_pos (AList.lookup_isSome.2 hmem)]
        obtain ⟨hprovider, hfactory, -⟩ := client.complete_renewed hmem done
        exact .inl ⟨done.status ≠ .ok, done.reconnection, rfl, hprovider, hfactory⟩
      · rw [if_neg (by simp [AList.lookup_eq_none.2 hmem])]
        simp only [GrpcClient.complete_unknown hmem]
        exact .inr ⟨trivial, trivial, trivial⟩

/-- Each event of a session keeps its channels on these credentials. -/
theorem Sound.step {credentials : Option ChannelCredentials} (h : s.Sound credentials)
    (event : Event C E) : (s.step event).Sound credentials := by
  obtain ⟨force, r, hcreated, hprovider, hfactory⟩ | ⟨hcreated, hprovider, hfactory⟩ :=
    step_cases s.client event
  · refine ⟨?_, fun channel hchannel => ?_, ?_⟩
    · exact (congrArg AuthenticatedProvider.credentials (hprovider.trans
        (GrpcStubFactory.new_stub_endpoint_provider ..))).trans h.provider
    · rw [ChannelSession.step, hcreated] at hchannel
      obtain hold | hnew := List.mem_append.1 hchannel
      · exact h.channels channel hold
      · exact (new_channel_credentials hnew).trans h.provider
    · rw [ChannelSession.step, hcreated, hfactory, new_channel_length, List.length_append,
        h.complete]
  · refine ⟨(congrArg AuthenticatedProvider.credentials hprovider).trans h.provider,
      fun channel hchannel => ?_, ?_⟩
    · rw [ChannelSession.step, hcreated] at hchannel
      exact h.channels channel (by simpa using hchannel)
    · rw [ChannelSession.step, hcreated, hfactory, List.append_nil, h.complete]

/-- A session starts without channels. -/
theorem Sound.start (p : AuthenticatedProvider P K) (maxOutstandingCalls : UInt64) :
    (ChannelSession.start p maxOutstandingCalls : ChannelSession P K C).Sound p.credentials :=
  ⟨rfl, nofun, rfl⟩

end ChannelSession

/-- Every channel that is ever created for a client of a provider uses SSL. -/
def AuthenticatedProvider.Secure (C : Type) (p : AuthenticatedProvider P K) : Prop :=
  ∀ (maxOutstandingCalls : UInt64) (events : List (Event C E)),
    ∀ channel ∈ (run ChannelSession.step (.start p maxOutstandingCalls) events).channels,
      UsesSsl channel.credentials

/-- All channels of a client have the credentials of its provider, and there is one for every stub
that was created. -/
theorem channels_sound (p : AuthenticatedProvider P K) (maxOutstandingCalls : UInt64)
    (events : List (Event C E)) :
    (run ChannelSession.step (.start p maxOutstandingCalls) events).Sound p.credentials :=
  run_invariant (.start p maxOutstandingCalls) fun _ event h => h.step event

/-- The channels use SSL exactly if the provider has SSL credentials: the first call has a channel
created. -/
theorem secure_iff [Inhabited C] [Inhabited E] (p : AuthenticatedProvider P K) :
    p.Secure C ↔ UsesSsl p.credentials := by
  constructor
  · intro hsecure
    have hcreated := hsecure 1
      [.async ⟨some default, ⟨(default : E), true⟩, true, 0⟩]
      ⟨(GrpcEndpointProvider.endpoint p true (default : E)).1, p.credentials, p.channelArgs⟩
    refine hcreated ?_
    have hchannel : newChannel ⟨"", 0⟩ p true (default : E) =
        [⟨(GrpcEndpointProvider.endpoint p true (default : E)).1, p.credentials,
          p.channelArgs⟩] :=
      if_pos (.inl rfl)
    simp [ChannelSession.step, ChannelSession.start, ChannelSession.created, GrpcClient.create,
      hchannel]
  · intro hssl maxOutstandingCalls events channel hchannel
    rw [(channels_sound p maxOutstandingCalls events).channels channel hchannel]
    exact hssl

end Sessions

/-! ## Endpoints -/

variable {o : AuthOutside K} {auth auth' : GrpcAuthConfig K} {endpoint endpoint' : GrpcEndpoint K}

/-- The client authenticates itself, or the certificates of the CA cannot be read. -/
def Authenticates (o : AuthOutside K) (auth : GrpcAuthConfig K) : Prop :=
  auth.useClientAuth = true ∨ o.readStr auth.caCertsPath = none

/-- Where a client need not authenticate itself, the insecure credentials are left. -/
theorem create_channel_creds_unauthenticated {pemRootCerts : String}
    (hssl : auth.requireSsl = true) (hread : o.readStr auth.caCertsPath = some pemRootCerts)
    (hclient : auth.useClientAuth = false) (endpoint : GrpcEndpoint K) :
    createChannelCreds o auth endpoint =
      some (auth, { endpoint with credentials := some .insecure }) := by
  simp [createChannelCreds, hssl, hread, hclient]

/-- Where it does, they are replaced on every path that succeeds. -/
theorem create_channel_creds_authenticated (hssl : auth.requireSsl = true)
    (hclient : auth.useClientAuth = true) (endpoint : GrpcEndpoint K)
    {created : GrpcAuthConfig K × GrpcEndpoint K}
    (hcreated : createChannelCreds o auth endpoint = some created) :
    UsesSsl created.2.credentials := by
  simp only [createChannelCreds, hssl, hclient, Bool.not_true, Bool.false_eq_true,
    if_false, if_true] at hcreated
  cases hread : o.readStr auth.caCertsPath with
  | none =>
      rw [hread] at hcreated
      cases hcreated
  | some pemRootCerts =>
      rw [hread] at hcreated
      obtain ⟨identity, -, rfl⟩ := Option.map_eq_some_iff.1 hcreated
      exact ⟨identity.1, rfl⟩

/-- Certificates that cannot be read give no credentials. -/
theorem create_channel_creds_unread (hssl : auth.requireSsl = true)
    (hread : o.readStr auth.caCertsPath = none) (endpoint : GrpcEndpoint K) :
    createChannelCreds o auth endpoint = none := by
  simp [createChannelCreds, hssl, hread]

/-- Success gives SSL credentials exactly to a client that authenticates itself. -/
theorem created_uses_ssl_iff (hssl : auth.requireSsl = true) (endpoint : GrpcEndpoint K) :
    (∀ created ∈ createChannelCreds o auth endpoint, UsesSsl created.2.credentials) ↔
      Authenticates o auth := by
  constructor
  · intro hcreated
    cases hread : o.readStr auth.caCertsPath with
    | none => exact .inr hread
    | some pemRootCerts =>
        cases hclient : auth.useClientAuth with
        | true => exact .inl hclient
        | false =>
            obtain ⟨opts, hopts⟩ :=
              hcreated _ (create_channel_creds_unauthenticated hssl hread hclient endpoint)
            cases hopts
  · rintro (hclient | hread) created hcreated
    · exact create_channel_creds_authenticated hssl hclient endpoint hcreated
    · rw [create_channel_creds_unread hssl hread] at hcreated
      cases hcreated

/-- `init_grpc_endpoint` succeeds with the credentials that were created. -/
theorem initialized_uses_ssl_iff (hssl : auth.requireSsl = true) (endpoint : GrpcEndpoint K) :
    (∀ initialized ∈ initGrpcEndpoint o auth endpoint, UsesSsl initialized.2.credentials) ↔
      Authenticates o auth := by
  rw [← created_uses_ssl_iff hssl endpoint, initGrpcEndpoint]
  constructor
  · intro hinitialized created hcreated
    exact hinitialized (created.1, createChannelArgs created.1 created.2)
      (Option.map_eq_some_iff.2 ⟨created, hcreated, rfl⟩)
  · intro hcreated initialized hinitialized
    obtain ⟨created, hmem, rfl⟩ := Option.map_eq_some_iff.1 hinitialized
    exact hcreated created hmem

/-! ## Builders -/

deriving instance Inhabited for Target, DnsInfo

variable {C : Type} [Inhabited C] {trustzoneAvailable : Bool} {identityProvider service : String}

/-- Completing a configuration keeps what it requires. -/
theorem create_auth_config_require_ssl (o : AuthOutside K) (trustzoneAvailable : Bool)
    (identityProvider : String) (auth : GrpcAuthConfig K) :
    (createAuthConfig o trustzoneAvailable identityProvider auth).requireSsl =
      auth.requireSsl := by
  unfold createAuthConfig
  split_ifs <;> rfl

/-- Building a static endpoint for a known service is its initialisation. -/
theorem build_static_eq {grpcService : Service} (hservice : service ≠ "")
    (hlookup : o.lookup service = some grpcService) (host : Service → String) :
    buildStaticWith o trustzoneAvailable identityProvider service host auth =
      (initGrpcEndpoint o (createAuthConfig o trustzoneAvailable identityProvider auth)
        { grpcEndpoint := host grpcService ++ ":" ++ toString grpcService.port,
          grpcAuthority := grpcService.hostName }).map fun (auth, endpoint) =>
            (createStatic endpoint, auth) := by
  simp only [buildStaticWith, if_neg hservice, hlookup, Option.bind_eq_bind, Option.bind_some,
    Option.map_eq_bind]
  rfl

/-- The channels to a static endpoint that could be built use SSL exactly if the client
authenticates itself. -/
theorem static_secure_iff (hssl : auth.requireSsl = true) (host : Service → String) :
    (∀ built ∈ buildStaticWith o trustzoneAvailable identityProvider service host auth,
        built.1.Secure C) ↔
      service = "" ∨ o.lookup service = none ∨
        Authenticates o (createAuthConfig o trustzoneAvailable identityProvider auth) := by
  by_cases hservice : service = ""
  · simp [buildStaticWith, hservice]
  cases hlookup : o.lookup service with
  | none => simp [buildStaticWith, hlookup]
  | some grpcService =>
      have hrequired := (create_auth_config_require_ssl o trustzoneAvailable identityProvider
        auth).trans hssl
      rw [build_static_eq hservice hlookup, ← initialized_uses_ssl_iff hrequired]
      constructor
      · intro hbuilt
        refine .inr (.inr fun initialized hinitialized => ?_)
        exact (secure_iff _).1 (hbuilt _ (Option.map_eq_some_iff.2 ⟨_, hinitialized, rfl⟩))
      · rintro (hempty | hnone | hinitialized) built hbuilt
        · exact absurd hempty hservice
        · cases hnone
        · obtain ⟨initialized, hmem, rfl⟩ := Option.map_eq_some_iff.1 hbuilt
          exact (secure_iff _).2 (hinitialized initialized hmem)

/-- So is building a dynamic one. -/
theorem build_dynamic_eq {grpcService : Service} (hservice : service ≠ "")
    (hlookup : o.lookup service = some grpcService) (init : Nat → Option DynamicGrpcEndpoint) :
    buildDynamicGrpcEndpoint o trustzoneAvailable identityProvider service init auth =
      (initGrpcEndpoint o (createAuthConfig o trustzoneAvailable identityProvider auth)
        { grpcAuthority := grpcService.hostName }).bind fun (auth, endpoint) =>
          (init grpcService.port).map fun provider => (endpoint.provide provider, auth) := by
  simp only [buildDynamicGrpcEndpoint, if_neg hservice, hlookup, Option.bind_eq_bind,
    Option.bind_some, Option.map_eq_bind]
  rfl

/-- The channels to a dynamic endpoint that could be built, likewise. -/
theorem dynamic_secure_iff (hssl : auth.requireSsl = true)
    (init : Nat → Option DynamicGrpcEndpoint) :
    (∀ built ∈ buildDynamicGrpcEndpoint o trustzoneAvailable identityProvider service init auth,
        built.1.Secure C) ↔
      service = "" ∨ (∀ grpcService ∈ o.lookup service, init grpcService.port = none) ∨
        Authenticates o (createAuthConfig o trustzoneAvailable identityProvider auth) := by
  by_cases hservice : service = ""
  · simp [buildDynamicGrpcEndpoint, hservice]
  cases hlookup : o.lookup service with
  | none => simp [buildDynamicGrpcEndpoint, hlookup]
  | some grpcService =>
      have hrequired := (create_auth_config_require_ssl o trustzoneAvailable identityProvider
        auth).trans hssl
      rw [build_dynamic_eq hservice hlookup]
      cases hinit : init grpcService.port with
      | none => simp [hinit]
      | some provider =>
          rw [← initialized_uses_ssl_iff hrequired { grpcAuthority := grpcService.hostName }]
          constructor
          · intro hbuilt
            refine .inr (.inr fun initialized hinitialized => ?_)
            exact (secure_iff _).1 (hbuilt (initialized.2.provide provider, initialized.1)
              (Option.bind_eq_some_iff.2 ⟨initialized, hinitialized, rfl⟩))
          · rintro (hempty | hnone | hinitialized) built hbuilt
            · exact absurd hempty hservice
            · cases hinit.symm.trans (hnone grpcService rfl)
            · obtain ⟨initialized, hmem, hmade⟩ := Option.bind_eq_some_iff.1 hbuilt
              obtain rfl := Option.some.inj hmade
              exact (secure_iff _).2 (hinitialized initialized hmem)

/-- With SSL required, what `create_channel_creds` and `init_grpc_endpoint` report as a success has
SSL credentials exactly if the client authenticates itself (or the certificates of the CA cannot be
read, and they never succeed). Then all channels to the endpoints that could be built use SSL, over
any run of calls and responses, and otherwise not. -/
theorem ssl_iff (hssl : auth.requireSsl = true) (o : AuthOutside K) :
    (∀ endpoint, (∀ created ∈ createChannelCreds o auth endpoint,
        UsesSsl created.2.credentials) ↔ Authenticates o auth) ∧
      (∀ endpoint, (∀ initialized ∈ initGrpcEndpoint o auth endpoint,
        UsesSsl initialized.2.credentials) ↔ Authenticates o auth) ∧
      (∀ trustzoneAvailable identityProvider service,
        (∀ built ∈ buildStaticGrpcEndpoint o trustzoneAvailable identityProvider service auth,
          built.1.Secure C) ↔
        service = "" ∨ o.lookup service = none ∨
          Authenticates o (createAuthConfig o trustzoneAvailable identityProvider auth)) ∧
      (∀ trustzoneAvailable identityProvider service ipAddressOverride,
        (∀ built ∈ buildStaticGrpcEndpointAt o trustzoneAvailable identityProvider service
          ipAddressOverride auth, built.1.Secure C) ↔
        service = "" ∨ o.lookup service = none ∨
          Authenticates o (createAuthConfig o trustzoneAvailable identityProvider auth)) ∧
      (∀ trustzoneAvailable identityProvider service init,
        (∀ built ∈ buildDynamicGrpcEndpoint o trustzoneAvailable identityProvider service init
          auth, built.1.Secure C) ↔
        service = "" ∨ (∀ grpcService ∈ o.lookup service, init grpcService.port = none) ∨
          Authenticates o (createAuthConfig o trustzoneAvailable identityProvider auth)) :=
  ⟨created_uses_ssl_iff hssl, initialized_uses_ssl_iff hssl,
    fun _ _ _ => static_secure_iff hssl Service.dnsName,
    fun _ _ _ ipAddressOverride => static_secure_iff hssl fun _ => ipAddressOverride,
    fun _ _ _ init => dynamic_secure_iff hssl init⟩

/-- Where all files can be read, all key methods are there and every service is known. -/
def openOutside : AuthOutside Unit where
  readStr path := some path
  readStrBinary _ := some []
  createExternalStsafeMethod _ := some ((), .nistP256)
  createExternalTrustzoneMethod _ := some ()
  createExternalCmrtMethod := some ()
  getString flag := flag
  lookup service := some ⟨service, service, 443⟩

/-- The default configuration requires SSL and client authentication. -/
theorem default_auth_ssl :
    (∀ created ∈ createChannelCreds openOutside {} {}, UsesSsl created.2.credentials) ∧
      (createChannelCreds openOutside {} {}).isSome :=
  ⟨((ssl_iff (C := Unit) rfl openOutside).1 {}).2 (.inl rfl), rfl⟩

/-- SSL is required without client authentication and the certificates of the CA are read: the
endpoint keeps its insecure credentials, and so does the channel of the first call. -/
theorem unauthenticated_channel_insecure :
    (createChannelCreds openOutside { requireSsl := true, useClientAuth := false } {}).map
        (·.2.credentials) = some (some .insecure) ∧
      (buildStaticGrpcEndpoint openOutside false "" "telemetry"
        { requireSsl := true, useClientAuth := false }).map (fun built =>
          (run ChannelSession.step (ChannelSession.start (C := Unit) built.1 1)
            [.async ⟨some (), ⟨(), true⟩, true, 0⟩]).channels.map (·.credentials)) =
        some [some .insecure] := by
  decide

end Codon.Grpc
