import Rpcn.Room.Ownership
import Rpcn.Room.Attributes
import Rpcn.Room.Labels
import Rpcn.Gui.Capacity
import Rpcn.Gui.Attributes
import Rpcn.Paging
import Rpcn.Score.LoadOrder
import Rpcn.Score.Reads
import Rpcn.Account.Relations
import Rpcn.Signaling.Addresses
import Rpcn.Session.Ban
import Rpcn.Session.Counters
import Rpcn.Session.Ghosts
import Rpcn.Account.Deletion
import Rpcn.Rematch.RankRange
import Rpcn.Rematch.Mutual
import Rpcn.Tus.DataIds
import Rpcn.Tus.CompareAndSet
import Rpcn.Client.Dump
import Rpcn.Score.Answered
import Rpcn.Account.Email
import Rpcn.Stats.Scores
import Rpcn.Stats.Cache
