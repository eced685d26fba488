import BluetoothDiscovery.Radio

/-!
# Looking up a known device

A handle is looked up in two steps: who it is, and then which services it has. The second step is
left out for a low-energy device that is not paired, whose services are those it advertises. A
failure at either step ends the look-up of this handle and of no other.
-/

namespace BluetoothDiscovery

/-- A device that was looked up. -/
structure Resolution where
  selector : Selector
  identity : Identity
  /-- The services, if they were asked for. -/
  services : Option (List Uuid)
deriving DecidableEq

namespace Resolution

/-- Whether the services of a device are asked for at all. -/
def asksForServices (selector : Selector) (identity : Identity) : Bool :=
  !(selector = .lowEnergy && !identity.paired)

/-- The end of a look-up whose services were listed; a listing that did not succeed is a failure. -/
def ofListing (selector : Selector) (identity : Identity) (listing : ServiceListing) :
    Except PlatformError Resolution :=
  if listing.status = .success then
    .ok ⟨selector, identity, some listing.services⟩
  else
    .error ⟨.fetchServices,
      s!"{identity.address} completed with status {listing.status.name}"⟩

/-- What a look-up says about a device. -/
def device (r : Resolution) : Device where
  address := r.identity.address
  name := r.identity.name
  classOfDevice := r.identity.classOfDevice
  configuration := match r.selector with
    | .classic => Configuration.baseRate
    | .lowEnergy => Configuration.lowEnergy
  services := .ofList (r.services.getD [])
  resolved := true

end Resolution

end BluetoothDiscovery
