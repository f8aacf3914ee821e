import Wicked.Dbus.AddrconfMethods

/-!
# The macvlan factory and device methods

`src/src/dbus-objects/macvlan.c` holds the D-Bus methods that create and delete a macvlan
interface:

* `ni_objectmodel_macvlan_newlink` (lines 56-80) reads the new interface's name and its
  configuration device from its two arguments and hands both to
  `__ni_objectmodel_macvlan_newlink` (lines 82-126), which validates the configuration, asks the
  system for the interface and checks the type of the device it gets back;
* `ni_objectmodel_macvlan_delete` (lines 131-152) deletes the interface behind an object;
* `ni_objectmodel_get_macvlan` (lines 158-170) gives the property code a device's macvlan
  configuration.

* **Netdev references are effects.** The configuration device from
  `__ni_objectmodel_macvlan_device_arg` and the device `ni_system_macvlan_create` leaves in
  `new_ifp` each come with one reference to the caller; `ni_netdev_put`, or handing the device
  to `ni_objectmodel_netif_factory_result`, gives it back.
* **The `DBusError` is an effect too**: `setError` records each error that the method, or a
  callee it passes `error` to, fills in.
* **`ni_assert`, a `NULL` dereference and a `NULL` string for `%s` are faults.**
* **A macvlan configuration is its address.** The methods hand `ni_macvlan_t` on to the system
  and to the property code and read none of its fields; `ni_objectmodel_macvlan_property_table`,
  which reads them, is not modelled.

These are single calls with no loop and no state that outlives them; the module gives their
model and states no theorem of its own.
-/

namespace Wicked

/-- An `ni_macvlan_t`, by its address: the methods pass it on and read none of its fields. -/
structure Macvlan where
  handle : ℕ
deriving DecidableEq, Repr

/-- The parts of an `ni_netdev_t` the methods read and write. -/
structure Netdev where
  /-- the device object, what `ni_netdev_put` drops a reference to -/
  handle : ℕ
  name : Option String
  /-- `link.type` -/
  linkType : ℕ
  macvlan : Option Macvlan
deriving DecidableEq, Repr

/-- An aborting or undefined step of a macvlan method. -/
inductive MacvlanFault
  /-- `ni_assert` fails -/
  | assertFailed
  /-- `new_ifp->link.type` with `new_ifp == NULL` -/
  | nullDeref
  /-- a `NULL` string for a `%s` of `dbus_set_error` -/
  | nullFormatArg
deriving DecidableEq, Repr

/-- A call of a macvlan method with an effect outside it. -/
inductive MacvlanEffect
  /-- `__ni_objectmodel_macvlan_device_arg(&argv[1])` returns the configuration device -/
  | deviceArg (handle : ℕ)
  /-- `ni_system_macvlan_create(nc, name, macvlan, &new_ifp)`, with the device it leaves in
  `new_ifp` -/
  | macvlanCreate (name : Option String) (macvlan : Option Macvlan) (newIfp : Option ℕ)
  /-- `ni_netdev_put(dev)` -/
  | netdevPut (handle : ℕ)
  /-- `*error` is filled in -/
  | setError (e : DbusError)
  /-- `ni_objectmodel_netif_factory_result(server, reply, dev, NULL, error)` -/
  | factoryResult (handle : ℕ)
  /-- `ni_system_macvlan_delete(dev)` -/
  | macvlanDelete (handle : ℕ)
  /-- `ni_dbus_object_free(object)` -/
  | dbusObjectFree
deriving DecidableEq, Repr

/-- One call of a macvlan method: its arguments and what its callees answer. -/
structure MacvlanEnv where
  /-- `factory_object->path` -/
  objectPath : String
  /-- `method->name` -/
  methodName : String
  /-- `ni_dbus_variant_get_string(&argv[0], &ifname)`: `none` when it fails, else `ifname` -/
  getString : Option (Option String)
  /-- `__ni_objectmodel_macvlan_device_arg(&argv[1])` -/
  deviceArg : Option Netdev
  /-- `ni_dbus_error_invalid_args(error, path, method)`: its result and the error it sets -/
  niDbusErrorInvalidArgs : String → String → Bool × DbusError
  /-- `ni_netdev_get_macvlan(dev)` -/
  niNetdevGetMacvlan : Netdev → Option Macvlan
  /-- `ni_macvlan_validate(macvlan)`: the text of what is wrong -/
  niMacvlanValidate : Option Macvlan → Option String
  /-- `ni_system_macvlan_create(nc, name, macvlan, &new_ifp)`: its result and `new_ifp` -/
  niSystemMacvlanCreate : Option String → Option Macvlan → ℤ × Option Netdev
  /-- `NI_ERROR_DEVICE_EXISTS` -/
  niErrorDeviceExists : ℤ
  /-- `NI_IFTYPE_MACVLAN` -/
  niIftypeMacvlan : ℕ
  /-- `ni_strerror(rv)` -/
  niStrerror : ℤ → String
  /-- `ni_linktype_type_to_name(type)` -/
  niLinktypeTypeToName : ℕ → String
  /-- `ni_objectmodel_netif_factory_result(server, reply, dev, NULL, error)` -/
  netifFactoryResult : Netdev → Bool
  /-- `ni_objectmodel_unwrap_netif(object, error)`, with the error it sets -/
  unwrapNetif : Except DbusError Netdev
  /-- `ni_system_macvlan_delete(dev)` -/
  niSystemMacvlanDelete : Netdev → ℤ

variable (E : MacvlanEnv)

/-! ### Creating an interface -/

/-- The configuration device once `ifname` is copied into it: `ni_string_eq` treats two `NULL`
names as equal, as `Option` equality does. -/
def renameTo (cfg : Netdev) (name : String) : Netdev :=
  if cfg.name = some name then cfg else { cfg with name := some name }

/-- `__ni_objectmodel_macvlan_newlink` (lines 82-126), for a configuration device that is not
`NULL`: the device it returns and its effects. -/
def niObjectmodelMacvlanNewlinkAux (cfg : Netdev) (ifname : Option String) :
    Except MacvlanFault (Option Netdev × List MacvlanEffect) :=
  let out (newIfp : Option Netdev) (es : List MacvlanEffect) :
      Except MacvlanFault (Option Netdev × List MacvlanEffect) :=
    .ok (newIfp, es ++ [.netdevPut cfg.handle])
  match ifname with
  | none => out none
      [.setError ⟨.invalidArgs, "Unable to create macvlan interface - name argument missed"⟩]
  | some name =>
    let cfg' := renameTo cfg name
    let macvlan := E.niNetdevGetMacvlan cfg'
    match E.niMacvlanValidate macvlan with
    | some err => out none [.setError ⟨.invalidArgs, err⟩]
    | none =>
      let (rv, newIfp) := E.niSystemMacvlanCreate cfg'.name macvlan
      let create := MacvlanEffect.macvlanCreate cfg'.name macvlan (newIfp.map (·.handle))
      if rv < 0 ∧ (rv ≠ -E.niErrorDeviceExists ∨ newIfp = none) then
        out newIfp
          [create, .setError
            ⟨.failed, "Unable to create macvlan interface: " ++ E.niStrerror rv⟩]
      else
        match newIfp with
        | none => .error .nullDeref
        | some dev =>
          if dev.linkType ≠ E.niIftypeMacvlan then
            out none [create, .setError ⟨.failed,
              "Unable to create macvlan interface: new interface is of type " ++
                E.niLinktypeTypeToName dev.linkType⟩, .netdevPut dev.handle]
          else out (some dev) [create]

/-- `ni_objectmodel_macvlan_newlink` (lines 56-80), called with `argc` arguments. -/
def niObjectmodelMacvlanNewlink (argc : ℕ) : Except MacvlanFault (Bool × List MacvlanEffect) :=
  if argc ≠ 2 then .error .assertFailed else
  let invalid : Except MacvlanFault (Bool × List MacvlanEffect) :=
    let (rv, e) := E.niDbusErrorInvalidArgs E.objectPath E.methodName
    .ok (rv, [.setError e])
  match E.getString with
  | none => invalid
  | some ifname =>
    match E.deviceArg with
    | none => invalid
    | some cfg => do
      let (newIfp, es) ← niObjectmodelMacvlanNewlinkAux E cfg ifname
      match newIfp with
      | none => return (false, .deviceArg cfg.handle :: es)
      | some dev =>
        return (E.netifFactoryResult dev,
          .deviceArg cfg.handle :: es ++ [.factoryResult dev.handle])

/-! ### Deleting an interface, and the property code's configuration -/

/-- `ni_objectmodel_macvlan_delete` (lines 131-152). -/
def niObjectmodelMacvlanDelete : Except MacvlanFault (Bool × List MacvlanEffect) :=
  match E.unwrapNetif with
  | .error e => .ok (false, [.setError e])
  | .ok dev =>
    let rv := E.niSystemMacvlanDelete dev
    if rv < 0 then
      match dev.name with
      | none => .error .nullFormatArg
      | some name => .ok (false, [.macvlanDelete dev.handle, .setError ⟨.failed,
          "Error deleting macvlan interface " ++ name ++ ": " ++ E.niStrerror rv⟩])
    else .ok (true, [.macvlanDelete dev.handle, .dbusObjectFree])

/-- `ni_objectmodel_get_macvlan` (lines 158-170): the configuration the property code reads,
or with write access the one it writes, attached first when the device has none. -/
def niObjectmodelGetMacvlan (writeAccess : Bool) : Option Macvlan × List MacvlanEffect :=
  match E.unwrapNetif with
  | .error e => (none, [.setError e])
  | .ok dev => (if writeAccess then E.niNetdevGetMacvlan dev else dev.macvlan, [])

end Wicked
