import MultipathFabric.Text

namespace MultipathFabric

structure Limits where
  maxSets : UInt64
  maxMembersPerSet : UInt64
  maxTotalMembers : UInt64
  maxHistoryPerSet : UInt64
  maxArchivedMembersPerSet : UInt64
  maxFrameBytes : UInt64
  maxBatchSize : UInt64
  maxPublishers : UInt64
  maxExplanationEntries : UInt64
  maxPersistenceRecordBytes : UInt64
  maxStoreBytes : UInt64
  maxAttempts : UInt64
  maxPendingRevalidationsPerSet : UInt64
  maxPathDependenciesPerPath : UInt64
  maxSnapshotHistory : UInt64
  maxScopeSetIds : UInt64

def Limits.default : Limits where
  maxSets := 100000
  maxMembersPerSet := 64
  maxTotalMembers := 1000000
  maxHistoryPerSet := 64
  maxArchivedMembersPerSet := 64
  maxFrameBytes := 1048576
  maxBatchSize := 256
  maxPublishers := 64
  maxExplanationEntries := 512
  maxPersistenceRecordBytes := 16777216
  maxStoreBytes := 67108864
  maxAttempts := 8192
  maxPendingRevalidationsPerSet := 64
  maxPathDependenciesPerPath := 4096
  maxSnapshotHistory := 16
  maxScopeSetIds := 256

end MultipathFabric
