import RustyCore.Verification.BattlePets.Purchases
import RustyCore.Verification.Crypto.HonestLogin
import RustyCore.Verification.Entities.UpdateMask
import RustyCore.Verification.Group.LoadedIds
import RustyCore.Verification.Group.LooterRotation
import RustyCore.Verification.Group.OneGroup
import RustyCore.Verification.Group.Persistence
import RustyCore.Verification.Group.ReadyChecks
import RustyCore.Verification.Instances.Resets
import RustyCore.Verification.Instances.Restart
import RustyCore.Verification.Instances.SaveRoundTrip
import RustyCore.Verification.Loot.Agreement
import RustyCore.Verification.Loot.ConditionPreload
import RustyCore.Verification.Loot.Conditions
import RustyCore.Verification.Loot.Leak
import RustyCore.Verification.Loot.Retirement
import RustyCore.Verification.Loot.RollWinner
import RustyCore.Verification.Loot.SaveFence
import RustyCore.Verification.Maps.CreateMap
import RustyCore.Verification.Maps.FreshIds
import RustyCore.Verification.Maps.Occupied
import RustyCore.Verification.Maps.PersonalPhase
import RustyCore.Verification.Maps.SplitTicks
import RustyCore.Verification.Migrations.ExactCuts
import RustyCore.Verification.Migrations.StartOnce
import RustyCore.Verification.Movement.Accounting
import RustyCore.Verification.Network.Nonces
import RustyCore.Verification.Network.WriterClose
import RustyCore.Verification.Packet.Compression
import RustyCore.Verification.Packet.ReadBounds
import RustyCore.Verification.Packet.ReadingUndoesWriting
import RustyCore.Verification.Player.Buyback
import RustyCore.Verification.Player.DestroyItems
import RustyCore.Verification.Player.EquipmentHistory
import RustyCore.Verification.Player.FullInventory
import RustyCore.Verification.Player.RankCounters
import RustyCore.Verification.Player.ReputationSaves
import RustyCore.Verification.Player.SpellHistory
import RustyCore.Verification.Player.VoidTransfer
import RustyCore.Verification.Pools.FailedPlans
import RustyCore.Verification.Pools.Limits
import RustyCore.Verification.Scripts.Deadlines
import RustyCore.Verification.Session.DurableRail
import RustyCore.Verification.Session.Permits
import RustyCore.Verification.Spawns.ProcessRespawns
import RustyCore.Verification.Spawns.SpawnGroups
import RustyCore.Verification.Traits.Normalization
import RustyCore.Verification.Transports.Cycles
import RustyCore.Verification.Units.AurasInStep
import RustyCore.Verification.Units.SpellHistory
import RustyCore.Verification.Vehicles.SeatCounter
import RustyCore.Verification.Wdc4.Readable
import RustyCore.Verification.WorldStates.Decoding
import RustyCore.Verification.WorldStates.Termination
