import MultiTenantGw.GoTypes
import MultiTenantGw.FilePath
import MultiTenantGw.Tenant
import MultiTenantGw.TenantIsolation
import MultiTenantGw.TenantRecords
import MultiTenantGw.TenantQuota
import MultiTenantGw.Registry
import MultiTenantGw.RegistryInvariant
import MultiTenantGw.MountArgs
import MultiTenantGw.Acquire
import MultiTenantGw.FileSystem
import MultiTenantGw.UserStorage
import MultiTenantGw.Config
import MultiTenantGw.ConfigStore
import MultiTenantGw.ConfigCoherence
import MultiTenantGw.ConfigRestart
import MultiTenantGw.Gateway
import MultiTenantGw.Provisioning
import MultiTenantGw.Separation
import MultiTenantGw.TenantHeap
import MultiTenantGw.IAMService
import MultiTenantGw.IAMAccounts
import MultiTenantGw.System
import MultiTenantGw.StorageRoots
import MultiTenantGw.Stripe
import MultiTenantGw.StripedRead
import MultiTenantGw.ParallelIO
import MultiTenantGw.LustreBackend
import MultiTenantGw.LustrePool
