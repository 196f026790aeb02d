import DungeonCrawler.Lib.BigEndian
import DungeonCrawler.Lib.Runs
import DungeonCrawler.Lib.StreamDecoder
import DungeonCrawler.Lib.ByteStream
import DungeonCrawler.Lib.SteadyTimer
import DungeonCrawler.Lib.UnorderedMap
import DungeonCrawler.Lib.InverseMaps
import DungeonCrawler.Lib.Fibers
import DungeonCrawler.Lib.Placement
import DungeonCrawler.Lib.Reader
import DungeonCrawler.Lib.Words
import DungeonCrawler.Lib.Digits
import DungeonCrawler.Lib.MapM
import DungeonCrawler.Lib.Grid
import DungeonCrawler.Lib.Vitals
import DungeonCrawler.Lib.WordMixer
import DungeonCrawler.Lib.IntegralType
import DungeonCrawler.Lib.SparseVector
import DungeonCrawler.Common.Types
import DungeonCrawler.Common.MessageHeader
import DungeonCrawler.Common.Strings
import DungeonCrawler.Common.Config
import DungeonCrawler.Common.StdinReader
import DungeonCrawler.Common.KeyboardReader
import DungeonCrawler.Common.FrameCodec
import DungeonCrawler.Common.FrameStream
import DungeonCrawler.Common.FrameCodecZc
import DungeonCrawler.Common.FrameBound
import DungeonCrawler.Common.FrameExceptions
import DungeonCrawler.Common.Serder
import DungeonCrawler.Common.GameState
import DungeonCrawler.Common.Cbor
import DungeonCrawler.Common.SerderRoundTrip
import DungeonCrawler.Common.SerderGrammar
import DungeonCrawler.Common.GameStateGrammar
import DungeonCrawler.Common.Names
import DungeonCrawler.Common.Hash
import DungeonCrawler.Common.Environment
import DungeonCrawler.Common.Json
import DungeonCrawler.Common.Settings
import DungeonCrawler.Common.SettingsPrecedence
import DungeonCrawler.Common.SettingsInstance
import DungeonCrawler.Domain.Position
import DungeonCrawler.Domain.PositionArithmetic
import DungeonCrawler.Domain.GameMap
import DungeonCrawler.Domain.Entity
import DungeonCrawler.Domain.Dungeon
import DungeonCrawler.Domain.Snapshot
import DungeonCrawler.Domain.DungeonPlacement
import DungeonCrawler.Domain.DungeonRegistry
import DungeonCrawler.Domain.DungeonPlayers
import DungeonCrawler.Domain.SpawnDraws
import DungeonCrawler.Domain.Targets
import DungeonCrawler.Domain.DungeonVitals
import DungeonCrawler.Domain.DungeonCommands
import DungeonCrawler.Domain.DungeonMoves
import DungeonCrawler.Domain.Lobby
import DungeonCrawler.Domain.LobbyRegistry
import DungeonCrawler.Domain.LobbyManager
import DungeonCrawler.Server.Events
import DungeonCrawler.Server.EventBus
import DungeonCrawler.Server.SessionRegistry
import DungeonCrawler.Server.MsgDispatcher
import DungeonCrawler.Server.MsgRouter
import DungeonCrawler.Server.ConnectionManager
import DungeonCrawler.Server.Session
import DungeonCrawler.Server.SessionStart
import DungeonCrawler.Server.ResponseSender
import DungeonCrawler.Server.GameLoop
import DungeonCrawler.Server.GameManager
import DungeonCrawler.Server.Games
import DungeonCrawler.Server.LobbyAnswers
import DungeonCrawler.Server.GameTick
import DungeonCrawler.Server.GameIsolation
import DungeonCrawler.Server.GameOver
import DungeonCrawler.Server.Replies
import DungeonCrawler.Client.RenderGameState
import DungeonCrawler.Client.RenderRows
import DungeonCrawler.Client.Picture
import DungeonCrawler.Client.MessageRouter
import DungeonCrawler.Client.CommandRouter
import DungeonCrawler.Client.ClientController
import DungeonCrawler.Client.Client
import DungeonCrawler.Client.Attempts
import DungeonCrawler.Client.Writes
import DungeonCrawler.Server.Managers
import DungeonCrawler.Server.StartGame
import DungeonCrawler.System.Uplink
import DungeonCrawler.System.Downlink
import DungeonCrawler.System.Screens
import DungeonCrawler.System.CommandPath
import DungeonCrawler.System.TypedBack
import DungeonCrawler.Server.TcpServer
