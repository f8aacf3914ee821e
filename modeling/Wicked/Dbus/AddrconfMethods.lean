import Mathlib.Data.List.Basic

/-!
# The addrconf client wrappers and static configure methods

The rest of `src/src/dbus-objects/addrconf.c` around the signal handler:

* `ni_objectmodel_addrconf_acquire` and `ni_objectmodel_addrconf_release` (lines 38-93) wrap
  one D-Bus call each, `acquire` with the encoded request and `drop` with the lease's UUID;
* `get_interface` (lines 224-237) unwraps the interface behind a D-Bus object;
* `ni_objectmodel_addrconf_ipv4_static_configure` and its IPv6 twin (lines 242-331) build a
  static request from a dict argument and apply it;
* the method tables and the two static services (lines 370-407).

* **The two configure methods are one definition**, `addrconfStaticConfigure`, applied to each
  method's own interface name, address family and family name as the source writes them. The
  IPv6 method passes `WICKED_DBUS_ADDRCONF_IPV4STATIC_INTERFACE`, as its source does.
* **Effects are lists**, as for the signal handler: `ClientEffect` for the wrappers,
  `ConfigureEffect` for the configure methods.
* **A method's `dbus_bool_t` and its `DBusError` are one `Except DbusError Unit`**: `FALSE`
  with the error that the method, or the callee it returns after, has set.

These are single calls with no loop and no state that outlives them. The module gives their
model, and the D-Bus errors the macvlan methods use too; it states no theorem of its own.
`WICKED_DBUS_ADDRCONF_IPV6STATIC_INTERFACE` is left out: no method or service reads it.
-/

namespace Wicked

/-! ### D-Bus errors -/

/-- The D-Bus error names these methods set. -/
inductive DbusErrorName
  /-- `DBUS_ERROR_FAILED` -/
  | failed
  /-- `DBUS_ERROR_INVALID_ARGS` -/
  | invalidArgs
deriving DecidableEq, Repr

/-- A `DBusError` once `dbus_set_error` has filled it in: its name and formatted message. -/
structure DbusError where
  name : DbusErrorName
  message : String
deriving DecidableEq, Repr

/-! ### The client wrappers -/

/-- A call of the client wrappers with an effect outside them. -/
inductive ClientEffect
  /-- `ni_dbus_variant_init_dict(&argument)` or `ni_dbus_variant_set_uuid(&argv[slot], …)` -/
  | initArg (slot : ℕ)
  /-- `ni_dbus_object_call_variant(object, NULL, method, argc, argv, 0, NULL, &error)` -/
  | call (method : String) (argc : ℕ)
  /-- `ni_dbus_variant_destroy(&argv[slot])` -/
  | destroyArg (slot : ℕ)
  /-- `dbus_error_free(&error)` -/
  | errorFree
deriving DecidableEq, Repr

/-- What the wrappers' callees answer, and the constant they return. -/
structure ClientEnv where
  /-- `NI_ERROR_INVALID_ARGS` -/
  niErrorInvalidArgs : ℤ
  /-- whether `__wicked_dbus_get_addrconf_request(req, &argument, &error)` succeeds -/
  getAddrconfRequest : Bool
  /-- whether `ni_dbus_object_call_variant` succeeds for the method of that name -/
  callVariant : String → Bool
  /-- `ni_dbus_object_translate_error(object, &error)` -/
  translateError : ℤ

variable (C : ClientEnv)

/-- `ni_objectmodel_addrconf_acquire` (lines 38-65), for a request that is `NULL` or not: its
result and its effects. `rv = TRUE` is `1`. -/
def niObjectmodelAddrconfAcquire {Req : Type} (req : Option Req) : ℤ × List ClientEffect :=
  if req.isNone then (-C.niErrorInvalidArgs, []) else
  let (rv, calls) :=
    if !C.getAddrconfRequest then (C.translateError, [])
    else if !C.callVariant "acquire" then (C.translateError, [ClientEffect.call "acquire" 1])
    else (1, [ClientEffect.call "acquire" 1])
  (rv, .initArg 0 :: calls ++ [.destroyArg 0, .errorFree])

/-- `ni_objectmodel_addrconf_release` (lines 73-93), for a lease that is `NULL` or not. The loop
`while (argc--) ni_dbus_variant_destroy(&argv[0])` destroys `argv[0]` `argc` times. -/
def niObjectmodelAddrconfRelease {Lease : Type} (lease : Option Lease) :
    ℤ × List ClientEffect :=
  let argc := if lease.isSome then 1 else 0
  let rv := if C.callVariant "drop" then 0 else C.translateError
  (rv, List.replicate argc (.initArg 0) ++ [.call "drop" argc] ++
    List.replicate argc (.destroyArg 0) ++ [.errorFree])

/-! ### The static configure methods -/

/-- `get_interface` (lines 224-237): the interface `ni_objectmodel_unwrap_interface` found behind
the object, or the error naming the object's path. -/
def getInterface (unwrapInterface : Option ℕ) (path : String) : Except DbusError ℕ :=
  match unwrapInterface with
  | some dev => .ok dev
  | none => .error ⟨.failed,
      "Method not compatible with object " ++ path ++ " (not a network interface)"⟩

/-- The address families of `ni_addrconf_request_new`. -/
inductive AddrFamily
  /-- `AF_INET` -/
  | inet
  /-- `AF_INET6` -/
  | inet6
deriving DecidableEq, Repr

/-- A call of a configure method with an effect outside it. -/
inductive ConfigureEffect
  /-- `ni_addrconf_request_new(NI_ADDRCONF_STATIC, family)` -/
  | requestNew (family : AddrFamily)
  /-- `ni_system_interface_addrconf(nc, dev, req)` -/
  | systemInterfaceAddrconf (ifindex : ℕ) (family : AddrFamily)
  /-- `ni_addrconf_request_free(req)` -/
  | requestFree
  /-- `ni_dbus_message_append_uint32(reply, value)` -/
  | appendUint32 (value : ℕ)
deriving DecidableEq, Repr

/-- One call of a configure method: its arguments and what its callees answer. -/
structure ConfigureEnv where
  /-- `ni_objectmodel_unwrap_interface(object)` -/
  unwrapInterface : Option ℕ
  /-- `object->path` -/
  objectPath : String
  /-- `method->name` -/
  methodName : String
  /-- `argc` -/
  argc : ℕ
  /-- `ni_dbus_variant_is_dict(&argv[0])` -/
  isDict : Bool
  /-- `__ni_objectmodel_set_address_dict(&req->statik.addrs, dict, error)`, with the error it
  sets when it fails -/
  setAddressDict : Except DbusError Unit
  /-- `__ni_objectmodel_set_route_dict(&req->statik.routes, dict, error)` -/
  setRouteDict : Except DbusError Unit
  /-- `ni_system_interface_addrconf(nc, dev, req)`, for the interface and the request's family -/
  systemInterfaceAddrconf : ℕ → AddrFamily → ℤ
  /-- `ni_strerror(rv)` -/
  niStrerror : ℤ → String

variable (M : ConfigureEnv)

/-- `!__ni_objectmodel_set_address_dict(…) || !__ni_objectmodel_set_route_dict(…)`: the route
dict is read only once the address dict is. -/
def ConfigureEnv.setDicts : Except DbusError Unit :=
  M.setAddressDict >>= fun _ ↦ M.setRouteDict

/-- The body the two static configure methods share (lines 242-284 and 289-331), for the
interface name its argument error reports, the family of its request, and the family's name in
its failure message. -/
def addrconfStaticConfigure (interface : String) (family : AddrFamily) (familyName : String) :
    Except DbusError Unit × List ConfigureEffect :=
  match getInterface M.unwrapInterface M.objectPath with
  | .error e => (.error e, [])
  | .ok dev =>
    if M.argc ≠ 1 ∨ M.isDict = false then
      (.error ⟨.invalidArgs, interface ++ "." ++ M.methodName ++ ": exected one dict argument"⟩,
        [])
    else
      match M.setDicts with
      | .error e => (.error e, [.requestNew family])
      | .ok () =>
        let rv := M.systemInterfaceAddrconf dev family
        let applied := [.requestNew family, .systemInterfaceAddrconf dev family, .requestFree]
        if rv < 0 then
          (.error ⟨.failed, "Error configuring static " ++ familyName ++ " addresses: " ++
            M.niStrerror rv⟩, applied)
        else (.ok (), applied ++ [.appendUint32 0])

/-! ### The two methods and their services -/

/-- A `ni_dbus_method_t` entry: the method's name, call signature and handler. -/
structure DbusMethod (Handler : Type) where
  name : String
  callSignature : String
  handler : Handler

/-- The parts of a `ni_dbus_service_t` the static services fill in. Their property table,
`ni_objectmodel_addrconf_static_properties`, is empty. -/
structure DbusService (Handler : Type) where
  name : String
  methods : List (DbusMethod Handler)

section Services

variable (wickedDbusInterface : String)

/-- `WICKED_DBUS_ADDRCONF_IPV4STATIC_INTERFACE` (line 28). -/
def wickedDbusAddrconfIpv4staticInterface : String :=
  wickedDbusInterface ++ ".Addrconf.ipv4.static"

/-- `ni_objectmodel_addrconf_ipv4_static_configure` (lines 242-284). -/
def niObjectmodelAddrconfIpv4StaticConfigure (M : ConfigureEnv) :
    Except DbusError Unit × List ConfigureEffect :=
  addrconfStaticConfigure M (wickedDbusAddrconfIpv4staticInterface wickedDbusInterface) .inet
    "IPv4"

/-- `ni_objectmodel_addrconf_ipv6_static_configure` (lines 289-331). Its argument error names
`WICKED_DBUS_ADDRCONF_IPV4STATIC_INTERFACE`, as the source has it. -/
def niObjectmodelAddrconfIpv6StaticConfigure (M : ConfigureEnv) :
    Except DbusError Unit × List ConfigureEffect :=
  addrconfStaticConfigure M (wickedDbusAddrconfIpv4staticInterface wickedDbusInterface) .inet6
    "IPv6"

/-- `ni_objectmodel_addrconf_ipv4_static_methods` (lines 370-373). -/
def niObjectmodelAddrconfIpv4StaticMethods :
    List (DbusMethod (ConfigureEnv → Except DbusError Unit × List ConfigureEffect)) :=
  [⟨"configure", "a{sv}", niObjectmodelAddrconfIpv4StaticConfigure wickedDbusInterface⟩]

/-- `ni_objectmodel_addrconf_ipv6_static_methods` (lines 375-378). -/
def niObjectmodelAddrconfIpv6StaticMethods :
    List (DbusMethod (ConfigureEnv → Except DbusError Unit × List ConfigureEffect)) :=
  [⟨"configure", "a{sv}", niObjectmodelAddrconfIpv6StaticConfigure wickedDbusInterface⟩]

/-- `ni_objectmodel_addrconf_ipv4_static_service` (lines 393-399). -/
def niObjectmodelAddrconfIpv4StaticService :
    DbusService (ConfigureEnv → Except DbusError Unit × List ConfigureEffect) :=
  ⟨wickedDbusAddrconfIpv4staticInterface wickedDbusInterface,
    niObjectmodelAddrconfIpv4StaticMethods wickedDbusInterface⟩

/-- `ni_objectmodel_addrconf_ipv6_static_service` (lines 401-407): its `.name` is
`WICKED_DBUS_ADDRCONF_IPV4STATIC_INTERFACE`, as the source has it. -/
def niObjectmodelAddrconfIpv6StaticService :
    DbusService (ConfigureEnv → Except DbusError Unit × List ConfigureEffect) :=
  ⟨wickedDbusAddrconfIpv4staticInterface wickedDbusInterface,
    niObjectmodelAddrconfIpv6StaticMethods wickedDbusInterface⟩

end Services

end Wicked
